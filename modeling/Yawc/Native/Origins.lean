import Yawc.Native.Sending

/-! Where the frames handed to the codec come from, whatever the calls and
whatever the transport answers. -/

namespace Yawc

/-- Every frame that was handed on, is owed or is about to close the connection
is a permitted one. -/
structure OnlySends (permitted : Frame → Prop) (connection : Streaming) : Prop where
  handed : ∀ frame ∈ connection.handed, permitted frame
  owed : ∀ frame ∈ connection.obligatedSends, permitted frame
  closing : ∀ frame, connection.writeHalf.closeState = some (.sending frame) → permitted frame

namespace OnlySends

variable {permitted : Frame → Prop} {s after : Streaming}

theorem mono {wider : Frame → Prop} (only : OnlySends permitted s)
    (wide : ∀ frame, permitted frame → wider frame) : OnlySends wider s :=
  ⟨fun frame member => wide frame (only.handed frame member),
    fun frame member => wide frame (only.owed frame member),
    fun frame sending => wide frame (only.closing frame sending)⟩

theorem pollWriteReady (only : OnlySends permitted s) : OnlySends permitted s.pollWriteReady.2 := by
  simp only [Streaming.pollWriteReady, WriteHalf.pollReady]
  split
  · exact only
  · refine ⟨?_, only.owed, only.closing⟩
    simpa [Streaming.handed] using only.handed

theorem pollWriteFlush (only : OnlySends permitted s) : OnlySends permitted s.pollWriteFlush.2 := by
  refine ⟨?_, only.owed, only.closing⟩
  simpa [Streaming.pollWriteFlush, WriteHalf.pollFlush, Streaming.handed] using only.handed

/-- The sink takes the frame or nothing. -/
theorem writeStartSend (only : OnlySends permitted s) {frame : Frame} (mine : permitted frame) :
    OnlySends permitted (s.writeStartSend frame).2 := by
  refine ⟨?_, only.owed, ?_⟩
  · intro other member
    simp only [Streaming.writeStartSend, WriteHalf.startSend, Streaming.handed,
      Framed.handed_startSend, List.mem_append] at member
    rcases member with before | now
    · exact only.handed other before
    · split at now
      · rwa [List.mem_singleton.mp now]
      · simp at now
  · intro other sending
    exact only.closing other (onSend_stage [frame] (by simp) sending)

private theorem sendObligated (only : OnlySends permitted s) {next : Frame} {rest : List Frame}
    (owed : s.obligatedSends = next :: rest) : OnlySends permitted (s.sendObligated next rest).2 := by
  apply Poll.andThen_keeps _ _ only.pollWriteReady
  intro _ middle ready kept
  obtain ⟨-, rfl⟩ := Streaming.pollWriteReady_ok ready
  have popped : OnlySends permitted
      { s with stream := s.stream.pollReady.2, obligatedSends := rest } :=
    ⟨kept.handed, fun frame member => only.owed frame (by simp [owed, member]), kept.closing⟩
  have sent := popped.writeStartSend (only.owed next (by simp [owed]))
  split
  · rename_i taken
    rwa [taken] at sent
  · rename_i taken
    rw [taken] at sent
    exact ⟨sent.handed, sent.owed, sent.closing⟩

private theorem sendAllObligated (owed : List Frame) {s : Streaming} (only : OnlySends permitted s)
    (same : s.obligatedSends = owed) : OnlySends permitted (Streaming.sendAllObligated owed s).2 := by
  induction owed generalizing s with
  | nil => exact only
  | cons next rest ih =>
    apply Poll.andThen_keeps _ _ (only.sendObligated same)
    intro _ middle sent kept
    exact ih kept (Streaming.sendObligated_ok sent)

private theorem flushObligated (only : OnlySends permitted s) :
    OnlySends permitted s.flushObligated.2 := by
  apply Poll.andThen_keeps _ _ (only.sendAllObligated _ rfl)
  intro _ middle _ kept
  split
  · apply Poll.andThen_keeps _ _ kept.pollWriteFlush
    exact fun _ _ _ done => ⟨done.handed, done.owed, done.closing⟩
  · exact kept

theorem pollFlushObligated (only : OnlySends permitted s) : OnlySends permitted s.pollFlushObligated.2 := by
  unfold Streaming.pollFlushObligated
  split
  · exact only
  · exact Poll.again_keeps _ (fun _ kept => kept.flushObligated) s only

private theorem pollReady (only : OnlySends permitted s) : OnlySends permitted s.pollReady.2 := by
  unfold Streaming.pollReady
  split
  · exact only.pollWriteReady
  · apply Poll.andThen_keeps _ _ only.pollFlushObligated
    exact fun _ _ _ kept => kept.pollWriteReady

theorem startSend (only : OnlySends permitted s) {item : Frame}
    (mine : ∀ prepared next, s.prepare item = (.ok prepared, next) → permitted prepared) :
    OnlySends permitted (s.startSend item).2 := by
  rcases s.startSend_cases item with ⟨error, deflate, failed⟩ | ⟨prepared, deflate, taken, sent⟩
  · rw [failed]
    exact ⟨only.handed, only.owed, only.closing⟩
  · rw [sent]
    have same : OnlySends permitted { s with deflate } := ⟨only.handed, only.owed, only.closing⟩
    exact same.writeStartSend (mine prepared _ taken)

/-- Nothing is handed on when sending a frame fails. -/
theorem startSend_refused (only : OnlySends permitted s) {item : Frame} {error : WebSocketError}
    (failed : (s.startSend item).1 = .error error) :
    OnlySends permitted (s.startSend item).2 := by
  rcases s.startSend_cases item with ⟨_, deflate, refused⟩ | ⟨prepared, deflate, -, sent⟩
  · rw [refused]
    exact ⟨only.handed, only.owed, only.closing⟩
  · rw [sent] at failed ⊢
    have refused : (s.stream.startSend prepared).1 = .error error := failed
    refine ⟨?_, only.owed, ?_⟩
    · intro frame member
      simp only [Streaming.writeStartSend, WriteHalf.startSend, Streaming.handed,
        Framed.handed_startSend, refused, List.append_nil] at member
      exact only.handed frame member
    · intro frame sending
      exact only.closing frame (onSend_stage [prepared] (by simp) sending)

/-- A close hands on the Close it waits to send, or its own. -/
theorem pollClose (only : OnlySends permitted s) (normal : permitted (Frame.close .normal [])) :
    OnlySends permitted s.pollClose.2 := by
  have outcome := s.writeHalf.pollClose_outcome s.stream
  unfold Streaming.pollClose
  generalize s.writeHalf.pollClose s.stream = result at outcome ⊢
  obtain ⟨reply, writeHalf, stream⟩ := result
  have unchanged (same : stream.handed = s.stream.handed)
      (closing : ∀ frame, writeHalf.closeState = some (.sending frame) → permitted frame) :
      OnlySends permitted { s with writeHalf, stream } := by
    refine ⟨?_, only.owed, closing⟩
    intro frame member
    simp only [Streaming.handed, same] at member
    exact only.handed frame member
  cases outcome with
  | sends frame state outcome =>
    have mine : permitted frame := by
      rcases state with ⟨-, rfl⟩ | state
      · exact normal
      · exact only.closing frame state
    have closing (other : Frame) (sending : writeHalf.closeState = some (.sending other)) :
        permitted other := outcome.state.1 other sending ▸ mine
    rcases outcome.handed with same | grown
    · exact unchanged same closing
    · refine ⟨?_, only.owed, closing⟩
      have grown : stream.handed = s.stream.handed ++ [frame] := grown
      intro other member
      simp only [Streaming.handed, grown, List.mem_append] at member
      rcases member with before | now
      · exact only.handed other before
      · rwa [List.mem_singleton.mp now]
  | behind _ outcome =>
    exact unchanged outcome.handed fun other sending => absurd sending (outcome.state.1 other)

section Reading

variable (automatic : ∀ frame : Frame, frame.Automatic → permitted frame)
include automatic

theorem oblige (only : OnlySends permitted s) {frame : Frame} (own : frame.Automatic) :
    OnlySends permitted (s.oblige frame) := by
  refine ⟨only.handed, ?_, only.closing⟩
  intro other member
  rcases List.mem_append.mp member with before | last
  · exact only.owed other before
  · rw [List.mem_singleton.mp last]
    exact automatic frame own

theorem emitClose (only : OnlySends permitted s) {frame : Frame} (own : frame.Automatic) :
    OnlySends permitted (s.emitClose frame) :=
  { only.oblige automatic own with }

omit automatic in
/-- Polls of the reader send nothing. -/
theorem read (only : OnlySends permitted s) {polled : Poll (Result Frame)}
    (outcome : Streaming.ReadOutcome s polled after) : OnlySends permitted after := by
  have taken {later : Framed} {readHalf : ReadHalf} {item : Poll (Option (Result Frame))}
      (takes : s.stream.Takes later item) :
      OnlySends permitted { s with stream := later, readHalf } := by
    refine ⟨?_, only.owed, only.closing⟩
    simpa [Streaming.handed, takes.handed] using only.handed
  cases outcome with
  | closed _ => exact only
  | pending _ takes => exact taken takes
  | ended _ takes => exact taken takes
  | failed _ takes _ => exact taken takes
  | received _ takes => exact taken takes

private theorem onFrame (only : OnlySends permitted s) {frame : Frame} {maxReadBuffer : Nat}
    {result : Result Frame} (taken : s.onFrame frame maxReadBuffer = (result, after)) :
    OnlySends permitted after := by
  have outcome := s.onFrame_outcome frame maxReadBuffer
  rw [taken] at outcome
  cases outcome with
  | ping _ => exact only.oblige automatic ⟨.inl rfl, rfl, rfl⟩
  | pong _ => exact only
  | close _ _ => exact only.emitClose automatic ⟨.inr rfl, rfl, rfl⟩
  | badClose _ _ => exact only
  | data _ _ => exact { only with }

private theorem pollNextFrameWithLimit (only : OnlySends permitted s) (maxReadBuffer : Nat) :
    OnlySends permitted (s.pollNextFrameWithLimit maxReadBuffer).2 := by
  have reader := s.pollReader_outcome
  unfold Streaming.pollNextFrameWithLimit
  generalize s.pollReader = result at reader
  obtain ⟨polled, middle⟩ := result
  have reading := only.read reader
  have outcome := middle.onPolled_outcome polled maxReadBuffer
  dsimp only at reading ⊢
  generalize middle.onPolled polled maxReadBuffer = result at outcome ⊢
  cases outcome with
  | silent quiet =>
    apply Poll.andThen_keeps _ _ reading.pollFlushObligated
    exact fun _ _ _ kept => kept
  | failed _ => exact reading.emitClose automatic ⟨.inr rfl, rfl, rfl⟩
  | refused taken _ =>
    exact (reading.onFrame automatic taken).emitClose automatic ⟨.inr rfl, rfl, rfl⟩
  | accepted taken => exact reading.onFrame automatic taken

end Reading

end OnlySends

/-- A frame as it is handed on, and the frame it was given as. -/
structure Frame.StemsFrom (frame given : Frame) : Prop where
  opcode : frame.opcode = given.opcode
  fin : frame.fin = given.fin
  control : given.opcode.isControl → frame = given

theorem Streaming.prepare_stems {self after : Streaming} {item prepared : Frame}
    (done : self.prepare item = (.ok prepared, after)) : prepared.StemsFrom item := by
  obtain ⟨opcode, fin, -⟩ := Streaming.prepare_frame done
  refine ⟨opcode, fin, ?_⟩
  intro control
  unfold Streaming.prepare at done
  split at done
  · simp only [Prod.mk.injEq, Except.ok.injEq] at done
    exact done.1.symm
  · simp only [Streaming.shouldCompress, control, Bool.not_true, Bool.false_and,
      Bool.false_eq_true, ↓reduceIte, Prod.mk.injEq, Except.ok.injEq] at done
    exact done.1.symm

/-- The frames a connection may have handed on after it was given these. -/
def Permitted (total : List Frame) (frame : Frame) : Prop :=
  frame.Automatic ∨ ∃ given ∈ total, frame.StemsFrom given

/-- Everything handed on, and everything that waits, is automatic or was given. -/
structure Traced (size : Option Nat) (total : List Frame) (connection : WebSocket) : Prop where
  sends : OnlySends (Permitted total) connection.streaming
  waits : ∀ frame ∈ connection.fragmentLayer.outgoingFragments, frame ∈ total
  setting : connection.fragmentLayer.fragmentSize = size

namespace Traced

variable {size : Option Nat} {total : List Frame} {ws next : WebSocket}

theorem mono (traced : Traced size total ws) (more : List Frame) :
    Traced size (total ++ more) ws := by
  refine ⟨traced.sends.mono ?_, ?_, traced.setting⟩
  · rintro frame (own | ⟨given, member, stems⟩)
    · exact .inl own
    · exact .inr ⟨given, List.mem_append_left _ member, stems⟩
  · intro frame member
    exact List.mem_append_left _ (traced.waits frame member)

private theorem readLoop (traced : Traced size total ws) (fuel : Nat) :
    Traced size total (ws.readLoop fuel).2 := by
  induction fuel generalizing ws with
  | zero => exact traced
  | succ fuel ih =>
    have polled : Traced size total ws.pollStreaming.2 :=
      ⟨traced.sends.pollNextFrameWithLimit (fun _ => .inl) _, traced.waits, traced.setting⟩
    apply Poll.andThen_keeps _ _ polled
    rintro frame middle - kept
    have assembled : Traced size total (middle.onFrame frame).2 := by
      obtain ⟨outgoing, setting, -⟩ :=
        middle.fragmentLayer.assembleIncoming_same frame middle.streaming.stream.clock
      constructor
      · rw [middle.onFrame_streaming]
        exact kept.sends
      · rw [middle.onFrame_fragmentLayer, outgoing]
        exact kept.waits
      · rw [middle.onFrame_fragmentLayer, setting]
        exact kept.setting
    match taken : middle.onFrame frame with
    | (.error _, _) => simpa [taken] using assembled
    | (.ok (some _), _) => simpa [taken] using assembled
    | (.ok none, _) => exact ih (by simpa [taken] using assembled)

theorem pollStreamingReady (traced : Traced size total ws) :
    Traced size total ws.pollStreamingReady.2 :=
  ⟨traced.sends.pollReady, traced.waits, traced.setting⟩

private theorem sendFragments (fragments : List Frame) {ws : WebSocket}
    (traced : Traced size total ws)
    (waiting : ws.fragmentLayer.outgoingFragments = fragments) :
    Traced size total (WebSocket.sendFragments fragments ws).2 := by
  induction fragments generalizing ws with
  | nil => exact traced
  | cons fragment rest ih =>
    have given := traced.waits fragment (by simp [waiting])
    have first : Traced size total (ws.sendFragment fragment rest).2 := by
      apply Poll.andThen_keeps _ _ traced.pollStreamingReady
      intro _ middle ready kept
      refine ⟨kept.sends.startSend fun prepared _ taken =>
        .inr ⟨fragment, given, Streaming.prepare_stems taken⟩, ?_, kept.setting⟩
      intro frame member
      exact traced.waits frame (by rw [waiting]; exact List.mem_cons_of_mem _ member)
    apply Poll.andThen_keeps _ _ first
    intro _ middle sent kept
    refine ih kept ?_
    obtain ⟨_, ready, _, handed⟩ := Poll.andThen_eq_ok sent
    simp only [Prod.mk.injEq] at handed
    rw [← handed.2]

/-- A frame is given as its pieces, whether it waits or goes on at once. -/
theorem startSend (traced : Traced size total ws) {item : Frame} {result : Result Unit}
    (taken : ws.startSend item = some (result, next)) :
    Traced size (total ++ pieces size item) next := by
  unfold WebSocket.startSend at taken
  rw [traced.setting] at taken
  cases size with
  | none =>
    simp only [Option.isNone_none, ↓reduceIte, Option.some.injEq, Prod.mk.injEq] at taken
    obtain ⟨-, rfl⟩ := taken
    have wider := traced.mono (pieces none item)
    refine ⟨wider.sends.startSend fun prepared _ done => ?_, wider.waits, wider.setting⟩
    exact .inr ⟨item, by simp [pieces], Streaming.prepare_stems done⟩
  | some limit =>
    simp only [Option.isNone_some, Bool.false_eq_true, ↓reduceIte, Option.map_eq_some_iff,
      FragmentLayer.fragmentOutgoing, FragmentLayer.fragmentsOf, traced.setting] at taken
    obtain ⟨layer, ⟨fragments, collected, rfl⟩, same⟩ := taken
    simp only [Prod.mk.injEq] at same
    obtain ⟨-, rfl⟩ := same
    split at collected
    · simp at collected
    · have wider := traced.mono (pieces (some limit) item)
      refine ⟨wider.sends, ?_, rfl⟩
      intro frame member
      rcases List.mem_append.mp member with before | now
      · exact wider.waits frame before
      · simp only [Option.getD_some] at collected
        simp [pieces, collected, now]

/-- A frame that is refused is not handed on. -/
theorem refused (traced : Traced size total ws) {item : Frame} {error : WebSocketError}
    (taken : ws.startSend item = some (.error error, next)) : Traced size total next := by
  unfold WebSocket.startSend at taken
  rw [traced.setting] at taken
  cases size with
  | none =>
    simp only [Option.isNone_none, ↓reduceIte, Option.some.injEq, Prod.mk.injEq] at taken
    obtain ⟨failed, rfl⟩ := taken
    exact ⟨traced.sends.startSend_refused failed, traced.waits, traced.setting⟩
  | some limit => simp at taken

/-- Every call keeps the origins, and adds what it gives. -/
theorem step (traced : Traced size total ws) {call : Call} {answer : Answer}
    (taken : ws.step call = some (answer, next)) :
    Traced size (total ++ (Call.accepted (call, answer)).toList.flatMap (pieces size)) next := by
  have flushed := traced.sendFragments _ rfl
  cases call with
  | pollNextFrame =>
    simp only [WebSocket.step, Option.some.injEq, Prod.mk.injEq] at taken
    obtain ⟨rfl, rfl⟩ := taken
    simpa [Call.accepted, WebSocket.pollNextFrame] using traced.readLoop _
  | pollReady =>
    simp only [WebSocket.step, Option.some.injEq, Prod.mk.injEq] at taken
    obtain ⟨rfl, rfl⟩ := taken
    have kept : Traced size total ws.pollReady.2 := by
      apply Poll.andThen_keeps _ _ flushed
      exact fun _ _ _ kept => kept.pollStreamingReady
    simpa [Call.accepted] using kept
  | pollFlush =>
    simp only [WebSocket.step, Option.some.injEq, Prod.mk.injEq] at taken
    obtain ⟨rfl, rfl⟩ := taken
    have kept : Traced size total ws.pollFlush.2 := by
      apply Poll.andThen_keeps _ _ flushed
      exact fun _ _ _ kept => ⟨kept.sends.pollWriteFlush, kept.waits, kept.setting⟩
    simpa [Call.accepted] using kept
  | pollClose =>
    simp only [WebSocket.step, Option.some.injEq, Prod.mk.injEq] at taken
    obtain ⟨rfl, rfl⟩ := taken
    have kept : Traced size total ws.pollClose.2 :=
      ⟨traced.sends.pollClose (.inl ⟨.inr rfl, rfl, rfl⟩), traced.waits, traced.setting⟩
    simpa [Call.accepted] using kept
  | startSend item =>
    simp only [WebSocket.step, Option.map_eq_some_iff] at taken
    obtain ⟨⟨result, after⟩, sent, same⟩ := taken
    simp only [Prod.mk.injEq] at same
    obtain ⟨rfl, rfl⟩ := same
    cases result with
    | ok _ => simpa [Call.accepted] using traced.startSend sent
    | error _ => simpa [Call.accepted] using traced.refused sent

/-- In every state a run reaches, whatever was handed on or waits stems from the
pieces of a frame that was accepted, unless the connection sends it by itself. -/
theorem run {start : WebSocket} {trace : List (Call × Answer)} {final : WebSocket}
    (traced : Traced size [] start)
    (run : Trace.Run WebSocket.step (fun _ _ => True) start trace final) :
    Traced size ((trace.filterMap Call.accepted).flatMap (pieces size)) final := by
  apply run.follows (motive := fun past state =>
    Traced size ((past.filterMap Call.accepted).flatMap (pieces size)) state)
  · intro past state call answer next _ taken kept
    have more := kept.step taken
    rw [List.filterMap_append, List.flatMap_append]
    cases accepted : Call.accepted (call, answer) <;> simpa [accepted] using more
  · exact traced

theorem new (flate : Flate) (incoming : List Arrival) (replies : List Reply) (clock : Nat)
    (opts : Negotiation) :
    Traced ((opts.fragmentation.bind (·.fragmentSize)).map (·.toNat)) []
      (.new flate (.new incoming replies clock) opts) where
  sends := ⟨nofun, nofun, nofun⟩
  waits := nofun
  setting := rfl

end Traced

end Yawc
