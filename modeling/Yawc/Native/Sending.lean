import Yawc.Fragments
import Yawc.Native.Outcomes
import Yawc.Library.Interleave
import Yawc.Library.Trace

/-! The sending side, apart from everything else a connection does, and that a
connection hands on what it was given: each frame once, in order, with only its
own replies in between. -/

namespace Yawc

/-- What sending a frame depends on. -/
structure Sender where
  deflate : Option Compressor
  streaming : Bool
  compressionThreshold : Nat

namespace Sender

/-- Whether a frame is compressed. -/
def compresses (self : Sender) (item : Frame) : Bool :=
  self.deflate.isSome && !item.opcode.isControl &&
    !(item.opcode ≠ .continuation && item.fin && item.payload.length < self.compressionThreshold)

/-- The sender behind a frame. Control frames leave it as it is. -/
def after (self : Sender) (item : Frame) : Sender :=
  { self with streaming := if item.opcode.isControl then self.streaming else !item.fin }

/-- The frame as it is handed on. -/
def send (self : Sender) (item : Frame) : Result Frame × Sender :=
  match self.deflate with
  | none => (.ok item, self.after item)
  | some deflate =>
    if self.compresses item then
      match deflate.compress item.payload item.fin with
      | (.error error, deflate) => (.error error, { self with deflate := some deflate })
      | (.ok output, deflate) =>
        (.ok { item with isCompressed := !self.streaming, payload := output },
          { self.after item with deflate := some deflate })
    else (.ok item, self.after item)

/-- One frame after the other, as long as none fails. -/
def sendAll : Sender → List Frame → Option (List Frame × Sender)
  | self, [] => some ([], self)
  | self, item :: rest =>
    match self.send item with
    | (.error _, _) => none
    | (.ok frame, self) => (sendAll self rest).map fun (frames, self) => (frame :: frames, self)

theorem sendAll_append {self : Sender} {early late : List Frame} :
    self.sendAll (early ++ late) =
      (self.sendAll early).bind fun (frames, middle) =>
        (middle.sendAll late).map fun (more, final) => (frames ++ more, final) := by
  induction early generalizing self with
  | nil => simp [sendAll]
  | cons item rest ih =>
    simp only [List.cons_append, sendAll]
    match self.send item with
    | (.error _, _) => rfl
    | (.ok frame, next) =>
      simp only [ih]
      cases next.sendAll rest with
      | none => rfl
      | some pair => simp [Function.comp_def]

theorem sendAll_split {self final : Sender} {early late frames : List Frame}
    (sent : self.sendAll (early ++ late) = some (frames, final)) :
    ∃ first middle second, self.sendAll early = some (first, middle) ∧
      middle.sendAll late = some (second, final) ∧ frames = first ++ second := by
  rw [sendAll_append] at sent
  simp only [Option.bind_eq_some_iff, Option.map_eq_some_iff, Prod.mk.injEq] at sent
  obtain ⟨⟨first, middle⟩, front, ⟨second, _⟩, back, rfl, rfl⟩ := sent
  exact ⟨first, middle, second, front, back, rfl⟩

private theorem sendAll_snoc {self middle final : Sender} {items frames : List Frame}
    {item frame : Frame}
    (sent : self.sendAll items = some (frames, middle))
    (next : middle.send item = (.ok frame, final)) :
    self.sendAll (items ++ [item]) = some (frames ++ [frame], final) := by
  rw [sendAll_append, sent]
  simp [sendAll, next]

/-- Without compression everything is handed on as it is. -/
theorem sendAll_plain {self : Sender} (plain : self.deflate = none) (items : List Frame) :
    ∃ final, self.sendAll items = some (items, final) ∧ final.deflate = none := by
  induction items generalizing self with
  | nil => exact ⟨self, rfl, plain⟩
  | cons item rest ih =>
    have unset : (self.after item).deflate = none := plain
    obtain ⟨final, sent, same⟩ := ih unset
    exact ⟨final, by simp [sendAll, send, plain, sent], same⟩

end Sender

/-- The sending side of a connection. -/
def Streaming.sender (self : Streaming) : Sender where
  deflate := self.deflate
  streaming := self.writeHalf.streaming
  compressionThreshold := self.compressionThreshold

namespace Streaming

/-- A connection sends as its sender says. -/
theorem startSend_eq (self : Streaming) (item : Frame) :
    self.startSend item =
      match self.sender.send item with
      | (.error error, sender) => (.error error, { self with deflate := sender.deflate })
      | (.ok frame, sender) =>
        Streaming.writeStartSend { self with deflate := sender.deflate } frame := by
  unfold startSend prepare Sender.send
  have same : self.sender.deflate = self.deflate := rfl
  cases deflate : self.deflate with
  | none =>
    simp only [same, deflate]
    rfl
  | some compressor =>
    have chosen : self.sender.compresses item = self.shouldCompress item := by
      simp [Sender.compresses, shouldCompress, sender, deflate]
    simp only [same, deflate, chosen]
    by_cases compress : self.shouldCompress item
    · simp only [compress, ↓reduceIte]
      rcases compressor.compress item.payload item.fin with ⟨_ | _, next⟩
      · rfl
      · rfl
    · simp only [compress, Bool.false_eq_true, ↓reduceIte]
      rfl

theorem send_frame {self final : Sender} {item frame : Frame}
    (sent : self.send item = (.ok frame, final)) :
    frame.opcode = item.opcode ∧ frame.fin = item.fin ∧ frame.mask = item.mask ∧
      final.streaming = (self.after item).streaming ∧
      final.compressionThreshold = self.compressionThreshold := by
  unfold Sender.send at sent
  split at sent
  · simp only [Prod.mk.injEq, Except.ok.injEq] at sent
    obtain ⟨rfl, rfl⟩ := sent
    exact ⟨rfl, rfl, rfl, rfl, rfl⟩
  · split at sent
    · split at sent
      · simp at sent
      · simp only [Prod.mk.injEq, Except.ok.injEq] at sent
        obtain ⟨rfl, rfl⟩ := sent
        exact ⟨rfl, rfl, rfl, rfl, rfl⟩
    · simp only [Prod.mk.injEq, Except.ok.injEq] at sent
      obtain ⟨rfl, rfl⟩ := sent
      exact ⟨rfl, rfl, rfl, rfl, rfl⟩

/-- The sender behind a frame that was handed on. -/
theorem writeStartSend_sender {self : Streaming} {final : Sender} {item frame : Frame}
    (sent : self.sender.send item = (.ok frame, final)) :
    (Streaming.writeStartSend { self with deflate := final.deflate } frame).2.sender = final := by
  obtain ⟨opcode, fin, -, streaming, threshold⟩ := send_frame sent
  obtain ⟨deflate, flag, size⟩ := final
  simp only [Sender.after] at streaming threshold
  simp [sender, writeStartSend, WriteHalf.startSend, WriteHalf.onSend, opcode, fin, streaming,
    threshold]

end Streaming

/-- The frames a connection sends by itself: answers to Pings, and Closes. -/
structure Frame.Automatic (frame : Frame) : Prop where
  opcode : frame.opcode = .pong ∨ frame.opcode = .close
  fin : frame.fin
  unmasked : frame.mask = none

theorem Frame.Automatic.control {frame : Frame} (automatic : Frame.Automatic frame) :
    frame.opcode.isControl := by
  rcases automatic.opcode with pong | close
  · simp [pong, OpCode.isControl]
  · simp [close, OpCode.isControl]

/-- Where a connection stands: `done` of what it was given has been handed on as
`sent`, among `replied` of the replies it ever owed. -/
structure Progress (start : Sender) (done sent replied : List Frame) (connection : Streaming) :
    Prop where
  prepared : start.sendAll done = some (sent, connection.sender)
  owed : connection.queued = replied ++ connection.obligatedSends
  control : ∀ frame ∈ connection.queued, Frame.Automatic frame
  handed : Interleaved replied sent connection.handed
  healthy : connection.stream.Healthy
  marked : connection.writeHalf.closeSent → ¬ NoClose connection.handed
  sending : ∀ frame, connection.writeHalf.closeState = some (.sending frame) →
    frame.opcode = .close

private theorem onSend_control {writeHalf : WriteHalf} (frames : List Frame)
    (control : ∀ frame ∈ frames, frame.opcode.isControl) :
    (frames.foldl WriteHalf.onSend writeHalf).streaming = writeHalf.streaming := by
  induction frames generalizing writeHalf with
  | nil => rfl
  | cons frame rest ih =>
    rw [List.foldl_cons, ih fun other member => control other (by simp [member])]
    simp [WriteHalf.onSend, control frame (by simp)]

/-- The writer takes a Close only by being given one. -/
theorem onSend_closeSent {writeHalf : WriteHalf} (frames : List Frame)
    (sent : (frames.foldl WriteHalf.onSend writeHalf).closeSent) :
    writeHalf.closeSent ∨ ¬ NoClose frames := by
  by_cases none : NoClose frames
  · left
    rwa [closeSent_congr (onSend_closeState frames none)] at sent
  · exact .inr none

/-- Frames that are taken bring the writer to no other stage of a close than
flushing. -/
theorem onSend_stage {writeHalf : WriteHalf} {stage : CloseState} (frames : List Frame)
    (other : stage ≠ .flushing)
    (reached : (frames.foldl WriteHalf.onSend writeHalf).closeState = some stage) :
    writeHalf.closeState = some stage := by
  induction frames generalizing writeHalf with
  | nil => exact reached
  | cons first rest ih =>
    have next := ih reached
    simp only [WriteHalf.onSend] at next
    split at next
    · simp only [Option.some.injEq] at next
      exact absurd next.symm other
    · exact next

namespace Progress

variable {start : Sender} {done sent replied : List Frame} {s after : Streaming}

/-- Flushing moves owed replies to the sink. -/
theorem flush (progress : Progress start done sent replied s) {popped : List Frame}
    (effect : Streaming.FlushEffect s after popped) :
    Progress start done sent (replied ++ popped) after := by
  have handed := effect.handed progress.healthy
  have queued : s.queued = replied ++ popped ++ after.obligatedSends := by
    rw [progress.owed, effect.owed, List.append_assoc]
  have control : ∀ frame ∈ popped, frame.opcode.isControl := by
    intro frame member
    exact (progress.control frame (by simp [queued, member])).control
  constructor
  · have same : after.sender = s.sender := by
      simp [Streaming.sender, effect.deflate, effect.writer, onSend_control popped control,
        effect.reader.compressionThreshold]
    rw [same]
    exact progress.prepared
  · rw [effect.reader.queued, queued]
  · rw [effect.reader.queued]
    exact progress.control
  · rw [handed]
    exact progress.handed.appendLeft popped
  · exact effect.healthy progress.healthy
  · rw [effect.writer, handed]
    intro closed none
    rcases onSend_closeSent popped closed with before | now
    · exact progress.marked before fun frame member => none frame (by simp [member])
    · exact now fun frame member => none frame (by simp [member])
  · rw [effect.writer]
    exact fun frame sending => progress.sending frame (onSend_stage popped (by simp) sending)

theorem flushed {Value : Type} {attempt : Poll.Attempt WebSocketError Streaming Value}
    (progress : Progress start done sent replied s) (flushes : Streaming.Flushes s attempt) :
    ∃ replied, Progress start done sent replied attempt.2 :=
  flushes.effect.elim fun _ effect => ⟨_, progress.flush effect⟩

/-- A frame that is taken is handed on. -/
theorem startSend (progress : Progress start done sent replied s) (item : Frame)
    (fine : start.deflate = none ∨ ∀ error, (s.startSend item).1 ≠ .error error) :
    (s.startSend item).1 = .ok () ∧
      ∃ frame, Progress start (done ++ [item]) (sent ++ [frame]) replied (s.startSend item).2 := by
  have equation := s.startSend_eq item
  match taken : s.sender.send item with
  | (.error error, sender) =>
    simp only [taken] at equation
    rcases fine with plain | fine
    · obtain ⟨final, all, same⟩ := Sender.sendAll_plain plain done
      rw [progress.prepared] at all
      simp only [Option.some.injEq, Prod.mk.injEq] at all
      rw [Sender.send, all.2, same] at taken
      simp at taken
    · exact absurd (by rw [equation]) (fine error)
  | (.ok frame, sender) =>
    simp only [taken] at equation
    have accepted : (s.startSend item).1 = .ok () := by
      rw [equation]
      exact (progress.healthy.startSend frame).1
    refine ⟨accepted, frame, ?_⟩
    have next := Streaming.writeStartSend_sender taken
    have grown : (s.startSend item).2.handed = s.handed ++ [frame] := by
      rw [equation]
      exact (progress.healthy.startSend frame).2
    constructor
    · rw [equation, next]
      exact Sender.sendAll_snoc progress.prepared taken
    · rw [equation]
      exact progress.owed
    · rw [equation]
      exact progress.control
    · rw [grown]
      exact progress.handed.right frame
    · rw [equation]
      exact progress.healthy.record _
    · intro closed none
      rw [grown] at none
      rw [equation] at closed
      rcases onSend_closeSent [frame] closed with before | now
      · exact progress.marked before fun other member => none other (by simp [member])
      · exact now fun other member => none other (by simp_all)
    · intro close sending
      rw [equation] at sending
      exact progress.sending close (onSend_stage [frame] (by simp) sending)

/-- Polls of the reader send nothing. -/
theorem read (progress : Progress start done sent replied s) {polled : Poll (Result Frame)}
    (outcome : Streaming.ReadOutcome s polled after) : Progress start done sent replied after := by
  have taken {later : Framed} {readHalf : ReadHalf} {item : Poll (Option (Result Frame))}
      (takes : s.stream.Takes later item) :
      Progress start done sent replied { s with stream := later, readHalf } := by
    constructor
    · exact progress.prepared
    · exact progress.owed
    · exact progress.control
    · simpa [Streaming.handed, takes.handed] using progress.handed
    · simpa [Framed.Healthy, takes.replies] using progress.healthy
    · simpa [Streaming.handed, takes.handed] using progress.marked
    · exact progress.sending
  cases outcome with
  | closed _ => exact progress
  | pending _ takes => exact taken takes
  | ended _ takes => exact taken takes
  | failed _ takes _ => exact taken takes
  | received _ takes => exact taken takes

theorem oblige (progress : Progress start done sent replied s) {frame : Frame}
    (control : Frame.Automatic frame) : Progress start done sent replied (s.oblige frame) where
  prepared := progress.prepared
  owed := by simp [Streaming.oblige, progress.owed]
  control := by
    intro owed member
    rcases List.mem_append.mp member with before | last
    · exact progress.control owed before
    · rwa [List.mem_singleton.mp last]
  handed := progress.handed
  healthy := progress.healthy
  marked := progress.marked
  sending := progress.sending

theorem emitClose (progress : Progress start done sent replied s) {frame : Frame}
    (control : Frame.Automatic frame) : Progress start done sent replied (s.emitClose frame) :=
  { progress.oblige control with }

/-- A received frame at most makes a reply owed. -/
theorem onFrame (progress : Progress start done sent replied s) {frame : Frame}
    {maxReadBuffer : Nat} {result : Result Frame}
    (taken : s.onFrame frame maxReadBuffer = (result, after)) :
    Progress start done sent replied after := by
  have outcome := s.onFrame_outcome frame maxReadBuffer
  rw [taken] at outcome
  cases outcome with
  | ping _ => exact progress.oblige ⟨.inl rfl, rfl, rfl⟩
  | pong _ => exact progress
  | close _ _ => exact progress.emitClose ⟨.inr rfl, rfl, rfl⟩
  | badClose _ _ => exact progress
  | data _ _ => exact { progress with }

private theorem pollNextFrameWithLimit (progress : Progress start done sent replied s)
    (maxReadBuffer : Nat) :
    ∃ replied, Progress start done sent replied (s.pollNextFrameWithLimit maxReadBuffer).2 := by
  have reader := s.pollReader_outcome
  unfold Streaming.pollNextFrameWithLimit
  generalize s.pollReader = result at reader
  obtain ⟨polled, middle⟩ := result
  have reading := progress.read reader
  have outcome := middle.onPolled_outcome polled maxReadBuffer
  dsimp only at reading ⊢
  generalize middle.onPolled polled maxReadBuffer = result at outcome ⊢
  cases outcome with
  | silent quiet =>
    apply Poll.andThen_keeps (motive := fun now => ∃ replied, Progress start done sent replied now)
    · exact reading.flushed middle.pollFlushObligated_effect
    · exact fun _ _ _ kept => kept
  | failed _ => exact ⟨replied, reading.emitClose ⟨.inr rfl, rfl, rfl⟩⟩
  | refused taken _ => exact ⟨replied, (reading.onFrame taken).emitClose ⟨.inr rfl, rfl, rfl⟩⟩
  | accepted taken => exact ⟨replied, reading.onFrame taken⟩

end Progress

/-- Everything a connection was given has been handed on or waits as fragments,
and nothing waits unless it is set to fragment. -/
def Conserved (start : Sender) (size : Option Nat) (total : List Frame) (connection : WebSocket) :
    Prop :=
  ∃ done sent replied, Progress start done sent replied connection.streaming ∧
    total = done ++ connection.fragmentLayer.outgoingFragments ∧
    connection.fragmentLayer.fragmentSize = size ∧
    (size = none → connection.fragmentLayer.outgoingFragments = [])

namespace Conserved

variable {start : Sender} {size : Option Nat} {total : List Frame} {ws : WebSocket}

/-- The read loop takes nothing away from what is to be sent. -/
theorem readLoop (conserved : Conserved start size total ws) (fuel : Nat) :
    Conserved start size total (ws.readLoop fuel).2 := by
  induction fuel generalizing ws with
  | zero => exact conserved
  | succ fuel ih =>
    obtain ⟨done, sent, replied, progress, waiting⟩ := conserved
    have polled : Conserved start size total ws.pollStreaming.2 := by
      obtain ⟨replied, progress⟩ := progress.pollNextFrameWithLimit
        ws.fragmentLayer.remainingReadCapacity
      exact ⟨done, sent, replied, progress, waiting⟩
    apply Poll.andThen_keeps (motive := Conserved start size total) _ _ polled
    rintro frame middle - ⟨done, sent, replied, progress, waiting⟩
    have assembled : Conserved start size total (middle.onFrame frame).2 := by
      refine ⟨done, sent, replied, by rwa [middle.onFrame_streaming], ?_⟩
      obtain ⟨outgoing, setting, -⟩ :=
        middle.fragmentLayer.assembleIncoming_same frame middle.streaming.stream.clock
      rw [middle.onFrame_fragmentLayer, outgoing, setting]
      exact waiting
    match taken : middle.onFrame frame with
    | (.error _, _) => simpa [taken] using assembled
    | (.ok (some _), _) => simpa [taken] using assembled
    | (.ok none, _) => exact ih (by simpa [taken] using assembled)

theorem pollStreamingReady (conserved : Conserved start size total ws) :
    Conserved start size total ws.pollStreamingReady.2 := by
  obtain ⟨done, sent, replied, progress, waiting⟩ := conserved
  obtain ⟨replied, progress⟩ := progress.flushed ws.streaming.pollReady_effect
  exact ⟨done, sent, replied, progress, waiting⟩

/-- The first fragment moves on. -/
theorem sendFragment (conserved : Conserved start size total ws) {fragment : Frame} {rest : List Frame}
    (waiting : ws.fragmentLayer.outgoingFragments = fragment :: rest)
    (fine : start.deflate = none ∨
      ∀ error, (ws.sendFragment fragment rest).1 ≠ .ready (.error error)) :
    Conserved start size total (ws.sendFragment fragment rest).2 := by
  unfold WebSocket.sendFragment at fine ⊢
  have ready := conserved.pollStreamingReady
  match polled : ws.pollStreamingReady with
  | (.pending, middle) => simpa [polled] using ready
  | (.ready (.error _), middle) => simpa [polled] using ready
  | (.ready (.ok ()), middle) =>
    rw [polled] at ready fine
    obtain ⟨done, sent, replied, progress, split, setting, whole⟩ := ready
    have same : middle.fragmentLayer = ws.fragmentLayer := by
      simp only [WebSocket.pollStreamingReady, Prod.mk.injEq] at polled
      rw [← polled.2]
    have taken : start.deflate = none ∨
        ∀ error, (middle.streaming.startSend fragment).1 ≠ .error error := by
      refine fine.imp_right fun fine error failed => fine error ?_
      simp [failed]
    obtain ⟨-, frame, progress⟩ := progress.startSend fragment taken
    refine ⟨done ++ [fragment], sent ++ [frame], replied, progress, ?_, setting, ?_⟩
    · rw [split, same, waiting]
      simp
    · intro unset
      rw [same, waiting] at whole
      exact absurd (whole unset) (by simp)

private theorem sendFragments (fragments : List Frame) {ws : WebSocket}
    (conserved : Conserved start size total ws)
    (waiting : ws.fragmentLayer.outgoingFragments = fragments)
    (fine : start.deflate = none ∨
      ∀ error, (WebSocket.sendFragments fragments ws).1 ≠ .ready (.error error)) :
    Conserved start size total (WebSocket.sendFragments fragments ws).2 := by
  induction fragments generalizing ws with
  | nil => exact conserved
  | cons fragment rest ih =>
    unfold WebSocket.sendFragments at fine ⊢
    have first := conserved.sendFragment waiting
    match sending : ws.sendFragment fragment rest with
    | (.pending, middle) =>
      rw [sending] at first
      exact first (.inr nofun)
    | (.ready (.error error), middle) =>
      rw [sending] at first fine
      exact first (by simpa using fine)
    | (.ready (.ok ()), middle) =>
      rw [sending] at first fine
      have shorter : middle.fragmentLayer.outgoingFragments = rest := by
        obtain ⟨_, ready, _, handed⟩ := Poll.andThen_eq_ok sending
        simp only [Prod.mk.injEq] at handed
        rw [← handed.2]
      exact ih (first (.inr nofun)) shorter fine

/-- A call that goes on once the queued fragments are handed over. -/
theorem behind_fragments (conserved : Conserved start size total ws)
    (next : Unit → WebSocket → Reply × WebSocket)
    (goes : ∀ middle, Conserved start size total middle →
      Conserved start size total (next () middle).2)
    (fine : start.deflate = none ∨
      ∀ error, (Poll.andThen ws.pollFlushFragments next).1 ≠ .ready (.error error)) :
    Conserved start size total (Poll.andThen ws.pollFlushFragments next).2 := by
  have flushed := conserved.sendFragments _ rfl
  unfold WebSocket.pollFlushFragments at fine ⊢
  match sending : WebSocket.sendFragments ws.fragmentLayer.outgoingFragments ws with
  | (.pending, middle) =>
    rw [sending] at flushed
    exact flushed (.inr nofun)
  | (.ready (.error error), middle) =>
    rw [sending] at flushed fine
    exact flushed (by simpa using fine)
  | (.ready (.ok ()), middle) =>
    rw [sending] at flushed
    exact goes middle (flushed (.inr nofun))

private theorem pollReady (conserved : Conserved start size total ws)
    (fine : start.deflate = none ∨ ∀ error, ws.pollReady.1 ≠ .ready (.error error)) :
    Conserved start size total ws.pollReady.2 := by
  refine conserved.behind_fragments _ ?_ fine
  intro middle flushed
  exact flushed.pollStreamingReady

private theorem pollFlush (conserved : Conserved start size total ws)
    (fine : start.deflate = none ∨ ∀ error, ws.pollFlush.1 ≠ .ready (.error error)) :
    Conserved start size total ws.pollFlush.2 := by
  refine conserved.behind_fragments _ ?_ fine
  intro middle flushed
  obtain ⟨done, sent, replied, progress, waiting⟩ := flushed
  obtain ⟨replied, progress⟩ := progress.flushed middle.streaming.pollWriteFlush_effect
  exact ⟨done, sent, replied, progress, waiting⟩

end Conserved

/-- The frame a call gave to the connection. -/
def Call.accepted : Call × Answer → Option Frame
  | (.startSend frame, .sent (.ok ())) => some frame
  | _ => none

/-- A call on the sink that reports an error. -/
def Answer.failed : Answer → Bool
  | .reply (.ready (.error _)) => true
  | .sent (.error _) => true
  | _ => false

namespace Conserved

variable {start : Sender} {size : Option Nat} {total : List Frame} {ws next : WebSocket}

/-- What is given is added to what has to be handed on. -/
theorem startSend (conserved : Conserved start size total ws) {item : Frame} {result : Result Unit}
    (taken : ws.startSend item = some (result, next))
    (fine : start.deflate = none ∨ ∀ error, result ≠ .error error) :
    result = .ok () ∧ Conserved start size (total ++ pieces size item) next := by
  obtain ⟨done, sent, replied, progress, split, setting, whole⟩ := conserved
  unfold WebSocket.startSend at taken
  rw [setting] at taken
  cases size with
  | none =>
    simp only [Option.isNone_none, ↓reduceIte, Option.some.injEq, Prod.mk.injEq] at taken
    obtain ⟨rfl, rfl⟩ := taken
    obtain ⟨accepted, frame, progress⟩ := progress.startSend item fine
    refine ⟨accepted, done ++ [item], sent ++ [frame], replied, progress, ?_, setting, whole⟩
    simp [split, whole rfl, pieces]
  | some limit =>
    simp only [Option.isNone_some, Bool.false_eq_true, ↓reduceIte, Option.map_eq_some_iff,
      FragmentLayer.fragmentOutgoing, FragmentLayer.fragmentsOf, setting] at taken
    obtain ⟨layer, ⟨fragments, collected, rfl⟩, same⟩ := taken
    simp only [Prod.mk.injEq] at same
    obtain ⟨rfl, rfl⟩ := same
    refine ⟨rfl, done, sent, replied, progress, ?_, rfl, by simp⟩
    split at collected
    · simp at collected
    · simp only [Option.getD_some] at collected
      simp [split, pieces, collected]

/-- Every call but a close keeps what was given, and adds what it gives. -/
theorem step (conserved : Conserved start size total ws) {call : Call} {answer : Answer}
    (taken : ws.step call = some (answer, next)) (opened : call ≠ .pollClose)
    (fine : start.deflate = none ∨ ¬ answer.failed) :
    Conserved start size
      (total ++ (Call.accepted (call, answer)).toList.flatMap (pieces size)) next := by
  cases call with
  | pollClose => exact absurd rfl opened
  | pollNextFrame =>
    simp only [WebSocket.step, Option.some.injEq, Prod.mk.injEq] at taken
    obtain ⟨rfl, rfl⟩ := taken
    simpa [Call.accepted, WebSocket.pollNextFrame] using conserved.readLoop _
  | pollReady =>
    simp only [WebSocket.step, Option.some.injEq, Prod.mk.injEq] at taken
    obtain ⟨rfl, rfl⟩ := taken
    have kept := conserved.pollReady <| fine.imp_right fun fine error failed => fine (by
      simp [Answer.failed, failed])
    simpa [Call.accepted] using kept
  | pollFlush =>
    simp only [WebSocket.step, Option.some.injEq, Prod.mk.injEq] at taken
    obtain ⟨rfl, rfl⟩ := taken
    have kept := conserved.pollFlush <| fine.imp_right fun fine error failed => fine (by
      simp [Answer.failed, failed])
    simpa [Call.accepted] using kept
  | startSend item =>
    simp only [WebSocket.step, Option.map_eq_some_iff] at taken
    obtain ⟨⟨result, after⟩, sent, same⟩ := taken
    simp only [Prod.mk.injEq] at same
    obtain ⟨rfl, rfl⟩ := same
    obtain ⟨rfl, kept⟩ := conserved.startSend sent <| fine.imp_right fun fine error failed => fine (by
      simp [Answer.failed, failed])
    simpa [Call.accepted] using kept

/-- So does a whole run. -/
theorem run {allowed : WebSocket → Call → Prop} {trace : List (Call × Answer)} {final : WebSocket}
    (run : Trace.Run WebSocket.step allowed ws trace final)
    (opened : ∀ pair ∈ trace, pair.1 ≠ .pollClose)
    (fine : start.deflate = none ∨ ∀ pair ∈ trace, ¬ pair.2.failed)
    (conserved : Conserved start size total ws) :
    Conserved start size (total ++ (trace.filterMap Call.accepted).flatMap (pieces size)) final := by
  induction run generalizing total with
  | nil => simpa using conserved
  | @cons state call answer middle trace final _ taken _ ih =>
    have kept := conserved.step taken (opened _ (List.mem_cons_self ..))
      (fine.imp_right fun fine => fine _ (List.mem_cons_self ..))
    have rest := ih (fun pair member => opened pair (by simp [member]))
      (fine.imp_right fun fine pair member => fine pair (by simp [member])) kept
    cases accepted : Call.accepted (call, answer) with
    | none => simpa [accepted] using rest
    | some frame => simpa [accepted] using rest

/-- A new connection has been given nothing. -/
theorem new (flate : Flate) {incoming : List Arrival} {replies : List Reply} {clock : Nat}
    {opts : Negotiation} (healthy : (Framed.new incoming replies clock).Healthy) :
    Conserved (Streaming.new flate (.new incoming replies clock) opts).sender
      ((opts.fragmentation.bind (·.fragmentSize)).map (·.toNat)) []
      (.new flate (.new incoming replies clock) opts) :=
  ⟨[], [], [], ⟨rfl, rfl, nofun, .nil, healthy, nofun, nofun⟩, rfl, rfl, fun _ => rfl⟩

end Conserved

end Yawc
