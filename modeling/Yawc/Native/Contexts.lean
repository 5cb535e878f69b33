import Yawc.Codec.RoundTrip
import Yawc.Native.Sending

/-! The two ends of a compressed connection. Which frames are compressed is
decided by the sender from its own state, and found out by the receiver from the
flag on the first frame of a message; both have to come to the same. -/

namespace Yawc

/-- Sends one frame after the other, as long as each is taken. -/
def Streaming.sendFrames : Streaming → List Frame → Option Streaming
  | self, [] => some self
  | self, frame :: rest =>
    match self.startSend frame with
    | (.error _, _) => none
    | (.ok (), self) => self.sendFrames rest

/-- Messages, whole or in fragments, with control frames anywhere in between.
`opened` says whether a message is open. No frame has the compression flag set,
which the public constructors leave clear. -/
def Messages : Bool → List Frame → Prop
  | _, [] => True
  | opened, item :: rest =>
    item.isCompressed = false ∧
      if item.opcode.isControl then Messages opened rest
      else (item.opcode = .continuation ↔ opened = true) ∧ Messages (!item.fin) rest

/-- Frames as they were given, paired with what was handed on for them. -/
def Emitted (compresses : Frame → Bool) : Bool → List (Frame × Frame) → Prop
  | _, [] => True
  | opened, (item, frame) :: rest =>
    frame.content = (if compresses item then
        (item.fin, item.opcode, !opened, frame.payload) else item.content) ∧
      item.isCompressed = false ∧
      if item.opcode.isControl then compresses item = false ∧ Emitted compresses opened rest
      else (item.opcode = .continuation ↔ opened = true) ∧
        (opened ∨ item.fin = false → compresses item) ∧ Emitted compresses (!item.fin) rest

namespace Sender

private theorem compresses_congr {first second : Sender}
    (deflate : first.deflate.isSome = second.deflate.isSome)
    (threshold : first.compressionThreshold = second.compressionThreshold) :
    first.compresses = second.compresses := by
  funext item
  simp [compresses, deflate, threshold]

theorem send_compressing {self final : Sender} {item frame : Frame} (deflating : self.deflate.isSome)
    (sent : self.send item = (.ok frame, final)) :
    frame = (if self.compresses item then
      { item with isCompressed := !self.streaming, payload := frame.payload } else item) ∧
    final.compresses = self.compresses ∧ final.deflate.isSome ∧
    final.streaming = (if item.opcode.isControl then self.streaming else !item.fin) := by
  obtain ⟨deflate, some⟩ := Option.isSome_iff_exists.mp deflating
  unfold send at sent
  simp only [some] at sent
  split at sent
  · rename_i compresses
    split at sent
    · simp at sent
    · simp only [Prod.mk.injEq, Except.ok.injEq] at sent
      obtain ⟨rfl, rfl⟩ := sent
      refine ⟨by simp [compresses], compresses_congr (by simp [some]) rfl, rfl, rfl⟩
  · rename_i plain
    simp only [Prod.mk.injEq, Except.ok.injEq] at sent
    obtain ⟨rfl, rfl⟩ := sent
    exact ⟨by simp [plain], compresses_congr rfl rfl, by simp [after, some], rfl⟩

private theorem compresses_control {self : Sender} {item : Frame} (control : item.opcode.isControl) :
    self.compresses item = false := by
  simp [compresses, control]

theorem compresses_fragment {self : Sender} {item : Frame} (deflating : self.deflate.isSome)
    (data : item.opcode.isControl = false)
    (fragment : item.opcode = .continuation ∨ item.fin = false) : self.compresses item := by
  rcases fragment with continuation | fin
  · simp [compresses, deflating, continuation, OpCode.isControl]
  · simp [compresses, deflating, data, fin]

/-- The calls made on the compressor so far. -/
def calls (self : Sender) : List (Bytes × Bool) := (self.deflate.map (·.calls)).getD []

theorem send_calls {self final : Sender} {item frame : Frame} (deflating : self.deflate.isSome)
    (sent : self.send item = (.ok frame, final)) :
    final.calls = self.calls ++
      if self.compresses item then [(item.payload, item.fin)] else [] := by
  obtain ⟨deflate, some⟩ := Option.isSome_iff_exists.mp deflating
  unfold send at sent
  simp only [some] at sent
  split at sent
  · rename_i compresses
    split at sent
    · simp at sent
    · rename_i output next called
      simp only [Prod.mk.injEq, Except.ok.injEq] at sent
      obtain ⟨-, rfl⟩ := sent
      simp only [Compressor.compress, Prod.mk.injEq] at called
      simp [calls, some, compresses, ← called.2]
  · rename_i plain
    simp only [Prod.mk.injEq, Except.ok.injEq] at sent
    obtain ⟨-, rfl⟩ := sent
    simp [calls, after, plain]

/-- A run of the sender, frame by frame. -/
theorem sendAll_emitted {self final : Sender} {items sent : List Frame}
    (deflating : self.deflate.isSome) (messages : Messages self.streaming items)
    (done : self.sendAll items = some (sent, final)) :
    Emitted self.compresses self.streaming (items.zip sent) ∧ sent.length = items.length ∧
      final.calls = self.calls ++
        (items.filter self.compresses).map fun item => (item.payload, item.fin) := by
  induction items generalizing self sent with
  | nil =>
    simp only [sendAll, Option.some.injEq, Prod.mk.injEq] at done
    obtain ⟨rfl, rfl⟩ := done
    simp [Emitted]
  | cons item rest ih =>
    simp only [sendAll] at done
    split at done
    · simp at done
    · rename_i frame next first
      simp only [Option.map_eq_some_iff, Prod.mk.injEq] at done
      obtain ⟨⟨others, _⟩, later, rfl, rfl⟩ := done
      obtain ⟨shape, same, deflates, streaming⟩ := send_compressing deflating first
      obtain ⟨plain, rules⟩ := messages
      have called := send_calls deflating first
      have further : Messages next.streaming rest := by
        rw [streaming]
        split at rules
        · simp [*]
        · simp [*]
      obtain ⟨emitted, length, calls⟩ := ih deflates further later
      refine ⟨?_, by simp [length], ?_⟩
      · simp only [List.zip_cons_cons, Emitted]
        refine ⟨?_, plain, ?_⟩
        · rw [shape]
          split <;> rfl
        rw [same, streaming] at emitted
        split
        · rename_i control
          exact ⟨compresses_control control, by simpa [control] using emitted⟩
        · rename_i data
          rw [if_neg data] at rules emitted
          refine ⟨rules.1, fun fragment => ?_, emitted⟩
          exact compresses_fragment deflating (by simpa using data)
            (fragment.imp_left rules.1.mpr)
      · rw [calls, called, same]
        by_cases compressed : self.compresses item <;> simp [compressed]

end Sender

private theorem Streaming.sendFrames_sent {self final : Streaming} {items : List Frame}
    (done : self.sendFrames items = some final) :
    ∃ sent, self.sender.sendAll items = some (sent, final.sender) ∧
      final.handed = self.handed ++ sent := by
  induction items generalizing self with
  | nil =>
    simp only [sendFrames, Option.some.injEq] at done
    subst done
    exact ⟨[], rfl, by simp⟩
  | cons item rest ih =>
    simp only [sendFrames] at done
    split at done
    · simp at done
    · rename_i next taken
      obtain ⟨sent, later, handed⟩ := ih done
      have equation := self.startSend_eq item
      match prepared : self.sender.send item with
      | (.error _, _) =>
        simp only [prepared, taken] at equation
        simp at equation
      | (.ok frame, sender) =>
        simp only [prepared, taken] at equation
        have sender := Streaming.writeStartSend_sender prepared
        rw [← equation] at sender
        have grown : next.handed = self.handed ++ [frame] := by
          have handed := self.stream.handed_startSend frame
          simp only [writeStartSend, WriteHalf.startSend, Prod.mk.injEq] at equation
          rw [← equation.1] at handed
          rw [equation.2]
          exact handed
        refine ⟨frame :: sent, ?_, by rw [handed, grown]; simp⟩
        simp only [Sender.sendAll, prepared]
        rw [sender] at later
        simp [later]

/-- The calls made on the decompressor so far, without the bound on the output. -/
def Streaming.inflateCalls (self : Streaming) : List (Bytes × Bool) :=
  ((self.inflate.map (·.calls)).getD []).map fun (input, streamEnd, _) => (input, streamEnd)

/-- The calls a decompressor has to make for the frames. -/
def callsFor (compresses : Frame → Bool) (pairs : List (Frame × Frame)) : List (Bytes × Bool) :=
  (pairs.filter fun pair => compresses pair.1).map fun pair => (pair.2.payload, pair.1.fin)

/-- What the receiver's user gets for a frame. -/
structure Passed (compresses : Frame → Bool) (pair : Frame × Frame) (received : Frame) : Prop where
  opcode : received.opcode = pair.1.opcode
  fin : received.fin = pair.1.fin
  untouched : compresses pair.1 = false → received.payload = pair.1.payload

namespace Streaming

private theorem inflateFrame_calls {self : Streaming} (inflating : self.inflate.isSome)
    (frame : Frame)
    (maxOutputSize : Nat) :
    (self.inflateFrame frame maxOutputSize).2.inflate.isSome ∧
      (self.inflateFrame frame maxOutputSize).2.inflateCalls = self.inflateCalls ++
        if frame.isCompressed then [(frame.payload, frame.fin)] else [] := by
  obtain ⟨inflate, some⟩ := Option.isSome_iff_exists.mp inflating
  unfold inflateFrame
  cases compressed : frame.isCompressed with
  | false => simp [some]
  | true => simp [some, inflateCalls, Decompressor.decompress]

private theorem onData_calls {self : Streaming} (inflating : self.inflate.isSome) (frame : Frame)
    (maxReadBuffer : Nat) :
    (self.onData frame maxReadBuffer).2.inflate.isSome ∧
      (self.onData frame maxReadBuffer).2.inflateCalls = self.inflateCalls ++
        if frame.isCompressed then [(frame.payload, frame.fin)] else [] := by
  have inflated := inflateFrame_calls inflating frame (self.maxOutputSize frame maxReadBuffer)
  unfold onData
  dsimp only
  split
  · rename_i result
    rwa [result] at inflated
  · rename_i result
    rw [result] at inflated
    split <;> exact inflated

private theorem onData_untouched {self after : Streaming} {frame received : Frame}
    {maxReadBuffer : Nat}
    (plain : frame.isCompressed = false)
    (taken : self.onData frame maxReadBuffer = (.ok received, after)) : received = frame := by
  simp only [onData, inflateFrame, plain, Bool.false_eq_true, ↓reduceIte] at taken
  split at taken
  · simp at taken
  · simp only [Prod.mk.injEq, Except.ok.injEq] at taken
    exact taken.1.symm

private theorem onFrame_calls {self after : Streaming} {frame : Frame} {maxReadBuffer : Nat}
    {result : Result Frame} (inflating : self.inflate.isSome)
    (control : frame.opcode.isControl → frame.isCompressed = false)
    (taken : self.onFrame frame maxReadBuffer = (result, after)) :
    after.inflate.isSome ∧
      after.inflateCalls = self.inflateCalls ++
        if frame.isCompressed then [(frame.payload, frame.fin)] else [] := by
  have outcome := self.onFrame_outcome frame maxReadBuffer
  rw [taken] at outcome
  have untouched (opcode : frame.opcode.isControl) : self.inflate.isSome ∧
      self.inflateCalls = self.inflateCalls ++
        if frame.isCompressed then [(frame.payload, frame.fin)] else [] := by
    simp [inflating, control opcode]
  cases outcome with
  | ping opcode => exact untouched (by simp [opcode, OpCode.isControl])
  | pong opcode => exact untouched (by simp [opcode, OpCode.isControl])
  | close opcode _ => exact untouched (by simp [opcode, OpCode.isControl])
  | badClose opcode _ => exact untouched (by simp [opcode, OpCode.isControl])
  | data _ data =>
    have called := onData_calls inflating frame maxReadBuffer
    rwa [data] at called

theorem onFrame_received {self after : Streaming} {frame received : Frame} {maxReadBuffer : Nat}
    (taken : self.onFrame frame maxReadBuffer = (.ok received, after)) :
    received.opcode = frame.opcode ∧ received.fin = frame.fin ∧
      (frame.isCompressed = false → received.payload = frame.payload) := by
  have outcome := self.onFrame_outcome frame maxReadBuffer
  rw [taken] at outcome
  cases outcome with
  | ping _ => exact ⟨rfl, rfl, fun _ => rfl⟩
  | pong _ => exact ⟨rfl, rfl, fun _ => rfl⟩
  | close _ _ => exact ⟨rfl, rfl, fun _ => rfl⟩
  | data _ data =>
    obtain ⟨opcode, fin, -, -⟩ := onData_ok data
    exact ⟨opcode, fin, fun plain => by rw [onData_untouched plain data]⟩

theorem onFrame_readHalf {self after : Streaming} {frame : Frame} {maxReadBuffer : Nat}
    {result : Result Frame} (taken : self.onFrame frame maxReadBuffer = (result, after)) :
    after.readHalf.compressedStream = self.readHalf.compressedStream ∧
      (frame.opcode ≠ .close → after.readHalf.isClosed = self.readHalf.isClosed) ∧
      (self.readHalf.isClosed → after.readHalf.isClosed) := by
  have outcome := self.onFrame_outcome frame maxReadBuffer
  rw [taken] at outcome
  cases outcome with
  | ping _ => exact ⟨rfl, fun _ => rfl, id⟩
  | pong _ => exact ⟨rfl, fun _ => rfl, id⟩
  | close opcode _ => exact ⟨rfl, fun other => absurd opcode other, fun _ => rfl⟩
  | badClose _ _ => exact ⟨rfl, fun _ => rfl, id⟩
  | data _ _ => exact ⟨rfl, fun _ => rfl, id⟩

end Streaming

theorem receive_emitted {compresses : Frame → Bool} {self : ReadHalf} {item frame : Frame}
    {rest : List (Frame × Frame)}
    (emitted : Emitted compresses self.compressedStream ((item, frame) :: rest)) :
    (self.receive frame).1 = { frame with mask := none, isCompressed := compresses item } ∧
      Emitted compresses (self.receive frame).2.compressedStream rest ∧
      frame.opcode = item.opcode ∧ frame.fin = item.fin ∧
      (compresses item = false → frame.payload = item.payload) ∧
      (item.opcode.isControl → compresses item = false) := by
  obtain ⟨shape, plain, rules⟩ := emitted
  have fin : frame.fin = item.fin := by
    refine (congrArg (·.1) shape).trans ?_
    split <;> rfl
  have opcode : frame.opcode = item.opcode := by
    refine (congrArg (·.2.1) shape).trans ?_
    split <;> rfl
  have flag : frame.isCompressed = (compresses item && !self.compressedStream) := by
    refine (congrArg (·.2.2.1) shape).trans ?_
    cases compresses item <;> simp [Frame.content, plain]
  have payload (unpressed : compresses item = false) : frame.payload = item.payload := by
    refine (congrArg (·.2.2.2) shape).trans ?_
    simp [unpressed, Frame.content]
  clear shape
  by_cases control : item.opcode.isControl
  · rw [if_pos control] at rules
    obtain ⟨unpressed, later⟩ := rules
    have stream : (self.receive frame).2.compressedStream = self.compressedStream := by
      cases kind : item.opcode <;> simp_all [ReadHalf.receive, OpCode.isControl]
    refine ⟨?_, stream ▸ later, opcode, fin, payload, fun _ => unpressed⟩
    simp [ReadHalf.receive, flag, unpressed, opcode, control]
  · rw [if_neg control] at rules
    obtain ⟨continues, fragment, later⟩ := rules
    -- An open message counts as compressed, so its end is what closes it.
    have counts : (self.receive frame).1.isCompressed = compresses item := by
      simp only [ReadHalf.receive, flag, opcode, control]
      cases open' : self.compressedStream with
      | false => simp
      | true => simp [fragment (.inl open')]
    have stream : (self.receive frame).2.compressedStream = !item.fin := by
      simp only [ReadHalf.receive] at counts ⊢
      rw [counts, opcode, fin]
      cases open' : self.compressedStream with
      | true =>
        have kind : item.opcode = .continuation := continues.mpr open'
        simp [kind]
      | false =>
        have other : item.opcode ≠ .continuation := fun kind => by
          simp [continues.mp kind] at open'
        cases ended : item.fin with
        | true => simp
        | false =>
          have compressed := fragment (.inr ended)
          cases kind : item.opcode <;> simp_all [OpCode.isControl]
    refine ⟨?_, stream ▸ later, opcode, fin, payload, fun other => absurd other control⟩
    rw [← counts]
    rfl

/-- Where a receiver stands: `passed` of the frames it has delivered, `refused`
it took but turned down, the rest it has not read. -/
structure InStep (compresses : Frame → Bool) (passed refused rest : List (Frame × Frame))
    (delivered : List Frame) (receiver : Streaming) : Prop where
  passes : List.Forall₂ (Passed compresses) passed delivered
  inflating : receiver.inflate.isSome
  calls : receiver.inflateCalls = callsFor compresses (passed ++ refused)
  arriving : arriving receiver.stream.incoming = rest.map Prod.snd
  frames : OnlyFrames receiver.stream.incoming
  opened : receiver.readHalf.isClosed = false →
    refused = [] ∧ NoClose (passed.map Prod.fst) ∧
      Emitted compresses receiver.readHalf.compressedStream rest
  closed : receiver.readHalf.isClosed → refused ≠ [] ∨ ¬ NoClose (passed.map Prod.fst)
  single : refused.length ≤ 1
  closeLast : CloseLast ((passed ++ refused).map Prod.fst)

namespace InStep

variable {compresses : Frame → Bool} {passed refused rest : List (Frame × Frame)}
  {delivered : List Frame} {r after : Streaming}

theorem same (step : InStep compresses passed refused rest delivered r)
    (same : Streaming.SameReader r after) :
    InStep compresses passed refused rest delivered after where
  passes := step.passes
  inflating := same.inflate ▸ step.inflating
  calls := by simpa [Streaming.inflateCalls, same.inflate] using step.calls
  arriving := same.stream.incoming ▸ step.arriving
  frames := same.stream.incoming ▸ step.frames
  opened := same.readHalf ▸ step.opened
  closed := same.readHalf ▸ step.closed
  single := step.single
  closeLast := step.closeLast

private theorem pending (step : InStep compresses passed refused rest delivered r) {later : Framed}
    (takes : r.stream.Takes later .pending) :
    InStep compresses passed refused rest delivered { r with stream := later } where
  passes := step.passes
  inflating := step.inflating
  calls := step.calls
  arriving := takes.arriving_pending ▸ step.arriving
  frames := takes.onlyFrames step.frames
  opened := step.opened
  closed := step.closed
  single := step.single
  closeLast := step.closeLast

theorem taken_calls {item raw : Frame} {others : List (Frame × Frame)} {later : Framed}
    {result : Result Frame} {maxReadBuffer : Nat}
    (step : InStep compresses passed [] ((item, raw) :: others) delivered r)
    (emitted : Emitted compresses r.readHalf.compressedStream ((item, raw) :: others))
    (takes : r.stream.Takes later (.ready (some (.ok raw))))
    (taken : Streaming.onFrame
      { r with stream := later, readHalf := (r.readHalf.receive raw).2 }
      (r.readHalf.receive raw).1 maxReadBuffer = (result, after)) :
    after.inflate.isSome ∧ after.inflateCalls = callsFor compresses (passed ++ [(item, raw)]) ∧
      Yawc.arriving after.stream.incoming = others.map Prod.snd ∧
      OnlyFrames after.stream.incoming := by
  obtain ⟨shape, -, opcode, fin, -, control⟩ := receive_emitted emitted
  have plain : (r.readHalf.receive raw).1.opcode.isControl →
      (r.readHalf.receive raw).1.isCompressed = false := by
    rw [shape]
    simpa [opcode] using control
  have calls := Streaming.onFrame_calls (by exact step.inflating) plain taken
  have stream := Streaming.onFrame_stream taken
  obtain ⟨frame, same, next⟩ := takes.arriving_ready step.frames
  simp only [Option.some.injEq, Except.ok.injEq] at same
  refine ⟨calls.1, ?_, ?_, stream ▸ takes.onlyFrames step.frames⟩
  · have before : Streaming.inflateCalls
        { r with stream := later, readHalf := (r.readHalf.receive raw).2 } =
        callsFor compresses (passed ++ []) := step.calls
    rw [calls.2, before, shape]
    by_cases compressed : compresses item <;> simp [callsFor, compressed, fin]
  · rw [step.arriving, ← same] at next
    simp only [List.map_cons, List.cons.injEq, true_and] at next
    rw [stream, next]

private theorem accepted {item raw received : Frame} {others : List (Frame × Frame)} {later : Framed}
    {maxReadBuffer : Nat} (step : InStep compresses passed refused ((item, raw) :: others) delivered r)
    (reading : r.readHalf.isClosed = false)
    (takes : r.stream.Takes later (.ready (some (.ok raw))))
    (taken : Streaming.onFrame
      { r with stream := later, readHalf := (r.readHalf.receive raw).2 }
      (r.readHalf.receive raw).1 maxReadBuffer = (.ok received, after)) :
    InStep compresses (passed ++ [(item, raw)]) [] others (delivered ++ [received]) after := by
  obtain ⟨rfl, noClose, emitted⟩ := step.opened reading
  obtain ⟨shape, further, opcode, fin, payload, -⟩ := receive_emitted emitted
  obtain ⟨inflating, calls, arriving, frames⟩ := step.taken_calls emitted takes taken
  obtain ⟨stream, unclosed, stays⟩ := Streaming.onFrame_readHalf taken
  have kind : (r.readHalf.receive raw).1.opcode = item.opcode := by rw [shape, opcode]
  have closes : (r.readHalf.receive raw).2.isClosed = decide (item.opcode = .close) := by
    simp [ReadHalf.receive, reading, opcode]
  rw [kind] at unclosed
  rw [closes] at unclosed stays
  constructor
  · refine List.rel_append step.passes (.cons ?_ .nil)
    obtain ⟨same, ends, untouched⟩ := Streaming.onFrame_received taken
    rw [shape] at same ends untouched
    exact ⟨same.trans opcode, ends.trans fin, fun plain => (untouched plain).trans (payload plain)⟩
  · exact inflating
  · simpa using calls
  · exact arriving
  · exact frames
  · intro opened
    have other : item.opcode ≠ .close := fun close => by simp [stays (by simp [close])] at opened
    refine ⟨rfl, ?_, by rw [stream]; exact further⟩
    intro frame member
    simp only [List.map_append, List.mem_append, List.map_cons, List.map_nil,
      List.mem_singleton] at member
    rcases member with before | rfl
    · exact noClose frame before
    · exact other
  · intro closed
    by_cases close : item.opcode = .close
    · exact .inr fun none => none item (by simp) close
    · rw [unclosed close] at closed
      simp [close] at closed
  · simp
  · simpa using CloseLast.snoc noClose item

private theorem turnedDown {item raw close : Frame} {others : List (Frame × Frame)} {later : Framed}
    {error : WebSocketError} {maxReadBuffer : Nat}
    (step : InStep compresses passed refused ((item, raw) :: others) delivered r)
    (reading : r.readHalf.isClosed = false)
    (takes : r.stream.Takes later (.ready (some (.ok raw))))
    (taken : Streaming.onFrame
      { r with stream := later, readHalf := (r.readHalf.receive raw).2 }
      (r.readHalf.receive raw).1 maxReadBuffer = (.error error, after)) :
    InStep compresses passed [(item, raw)] others delivered (after.emitClose close) := by
  obtain ⟨rfl, noClose, emitted⟩ := step.opened reading
  obtain ⟨inflating, calls, arriving, frames⟩ := step.taken_calls emitted takes taken
  constructor
  · exact step.passes
  · exact inflating
  · exact calls
  · exact arriving
  · exact frames
  · nofun
  · exact fun _ => .inl (by simp)
  · simp
  · simpa using CloseLast.snoc noClose item

end InStep

/-- A receiver in step with the sender. -/
def Follows (compresses : Frame → Bool) (pairs : List (Frame × Frame)) (delivered : List Frame)
    (receiver : Streaming) : Prop :=
  ∃ passed refused rest, pairs = passed ++ refused ++ rest ∧
    InStep compresses passed refused rest delivered receiver

/-- The frame a call delivered. -/
def Answer.delivered : Answer → Option Frame
  | .read (.ready (.ok frame)) => some frame
  | _ => none

namespace Follows

variable {compresses : Frame → Bool} {pairs : List (Frame × Frame)} {delivered : List Frame}
  {r after : Streaming}

theorem same (follows : Follows compresses pairs delivered r)
    (same : Streaming.SameReader r after) : Follows compresses pairs delivered after := by
  obtain ⟨passed, refused, rest, split, step⟩ := follows
  exact ⟨passed, refused, rest, split, step.same same⟩

theorem delivers_none {answer : Poll (Result Frame)} (nothing : ∀ frame, answer ≠ .ready (.ok frame)) :
    Answer.delivered (.read answer) = none := by
  match answer with
  | .pending => rfl
  | .ready (.error _) => rfl
  | .ready (.ok frame) => exact absurd rfl (nothing frame)

private theorem reads (follows : Follows compresses pairs delivered r)
    (reading : r.readHalf.isClosed = false) (maxReadBuffer : Nat) :
    Follows compresses pairs
      (delivered ++ (Answer.delivered (.read (r.pollNextFrameWithLimit maxReadBuffer).1)).toList)
      (r.pollNextFrameWithLimit maxReadBuffer).2 := by
  obtain ⟨passed, refused, rest, split, step⟩ := follows
  obtain ⟨rfl, -⟩ := step.opened reading
  have outcome := Streaming.pollNextFrameWithLimit_open reading step.frames maxReadBuffer
  generalize r.pollNextFrameWithLimit maxReadBuffer = result at outcome ⊢
  have next {later : Framed} {raw : Frame}
      (takes : r.stream.Takes later (.ready (some (.ok raw)))) :
      ∃ item others, rest = (item, raw) :: others := by
    obtain ⟨frame, same, next⟩ := takes.arriving_ready step.frames
    simp only [Option.some.injEq, Except.ok.injEq] at same
    rw [step.arriving, ← same] at next
    obtain ⟨⟨item, first⟩, others, rfl, rfl, -⟩ := List.map_eq_cons_iff.mp next
    exact ⟨item, others, rfl⟩
  cases outcome with
  | silent takes flushes nothing =>
    rw [delivers_none nothing, Option.toList_none, List.append_nil]
    exact ⟨passed, [], rest, split, (step.pending takes).same flushes.reader⟩
  | accepted takes taken =>
    obtain ⟨item, others, rfl⟩ := next takes
    exact ⟨_, [], others, by simp [split], step.accepted reading takes taken⟩
  | @refused _ raw _ _ takes taken =>
    obtain ⟨item, others, rfl⟩ := next takes
    refine ⟨passed, [(item, raw)], others, by simp [split], ?_⟩
    simpa [Answer.delivered] using step.turnedDown reading takes taken

private theorem pollNextFrame (follows : Follows compresses pairs delivered r) :
    Follows compresses pairs
      (delivered ++ (Answer.delivered (.read r.pollNextFrame.1)).toList) r.pollNextFrame.2 := by
  cases closed : r.readHalf.isClosed with
  | false => exact follows.reads closed _
  | true =>
    obtain ⟨flushes, nothing, _⟩ := Streaming.pollNextFrameWithLimit_closed closed r.maxPayloadRead
    unfold Streaming.pollNextFrame
    rw [delivers_none nothing, Option.toList_none, List.append_nil]
    exact follows.same flushes.reader

/-- Whatever the receiver's user calls, it stays in step. -/
theorem step (follows : Follows compresses pairs delivered r) (call : Call) :
    Follows compresses pairs (delivered ++ (r.step call).1.delivered.toList) (r.step call).2 := by
  cases call with
  | pollNextFrame => exact follows.pollNextFrame
  | pollReady => simpa [Streaming.step, Answer.delivered] using follows.same r.pollReady_effect.reader
  | startSend frame =>
    simpa [Streaming.step, Answer.delivered] using follows.same (r.startSend_reader frame)
  | pollFlush =>
    simpa [Streaming.step, Answer.delivered, Streaming.pollFlush] using
      follows.same r.pollWriteFlush_effect.reader
  | pollClose => simpa [Streaming.step, Answer.delivered] using follows.same r.pollClose_reader

private theorem run {trace : List (Call × Answer)} {final : Streaming}
    (run : Trace.Run (fun (receiver : Streaming) call => some (receiver.step call))
      (fun _ _ => True) r trace final)
    (follows : Follows compresses pairs delivered r) :
    Follows compresses pairs (delivered ++ trace.filterMap (·.2.delivered)) final := by
  induction run generalizing delivered with
  | nil => simpa using follows
  | @cons state call answer middle trace final _ taken _ ih =>
    simp only [Option.some.injEq] at taken
    have next := follows.step call
    rw [taken] at next
    have later := ih next
    cases shown : answer.delivered with
    | none => simpa [shown] using later
    | some frame => simpa [shown] using later

end Follows

private theorem Emitted.arrived {compresses : Frame → Bool} {opened : Bool}
    {items sent arrived : List Frame} (emitted : Emitted compresses opened (items.zip sent))
    (same : arrived.map Frame.content = sent.map Frame.content) :
    Emitted compresses opened (items.zip arrived) := by
  induction items generalizing opened sent arrived with
  | nil => trivial
  | cons item items ih =>
    cases arrived with
    | nil => trivial
    | cons frame arrived =>
      cases sent with
      | nil => simp at same
      | cons first sent =>
        simp only [List.map_cons, List.cons.injEq] at same
        simp only [List.zip_cons_cons, Emitted] at emitted ⊢
        obtain ⟨shape, plain, rules⟩ := emitted
        have payload : frame.payload = first.payload := congrArg (·.2.2.2) same.1
        refine ⟨by rw [same.1, payload]; exact shape, plain, ?_⟩
        split
        · rename_i control
          rw [if_pos control] at rules
          exact ⟨rules.1, ih rules.2 same.2⟩
        · rename_i data
          rw [if_neg data] at rules
          exact ⟨rules.1, rules.2.1, ih rules.2.2 same.2⟩

/-- Settings with compression, as two endpoints with default options agree on. -/
def Negotiation.deflated : Negotiation :=
  { Negotiation.plain with compression := some ⟨6, ⟨false, none⟩, ⟨false, none⟩⟩ }

/-- What the sender compresses behind a frame that is too large, or behind a
Close, is never decompressed. -/
theorem contexts_part :
    (∃ sender trace receiver,
      (Streaming.new .stored (.new [] [] 0) .deflated).sendFrames [.binary [1, 2, 3], .binary [4]] =
        some sender ∧
      Trace.Run (fun (receiver : Streaming) call => some (receiver.step call)) (fun _ _ => True)
        (.new .stored (.new (sender.handed.map (.at 0)) [] 0)
          { Negotiation.deflated with maxPayloadRead := 2 }) trace receiver ∧
      sender.sender.calls = [([1, 2, 3], true), ([4], true)] ∧
      receiver.inflateCalls = [([1, 2, 3], true)] ∧ receiver.readHalf.isClosed) ∧
    (∃ sender trace receiver,
      (Streaming.new .stored (.new [] [] 0) .deflated).sendFrames [.close .normal [], .binary [4]] =
        some sender ∧
      Trace.Run (fun (receiver : Streaming) call => some (receiver.step call)) (fun _ _ => True)
        (.new .stored (.new (sender.handed.map (.at 0)) [] 0) .deflated) trace receiver ∧
      sender.sender.calls = [([4], true)] ∧
      receiver.inflateCalls = [] ∧ receiver.readHalf.isClosed) := by
  constructor
  · exact ⟨_, _, _, rfl, .of_exec [.pollNextFrame, .pollNextFrame] rfl, by decide, by decide, rfl⟩
  · exact ⟨_, _, _, rfl, .of_exec [.pollNextFrame, .pollNextFrame] rfl, by decide, by decide, rfl⟩

section Agreement

variable (senderFlate receiverFlate : Flate) (senderOpts receiverOpts : Negotiation)

/-- In every state a receiver can reach, it has called its decompressor for
exactly those of the frames it took that the sender compressed, in order and
with the sender's flush flags, and has delivered the others untouched. It takes
the frames in order, and stops only at one it refuses or behind a Close. -/
theorem contexts_agree {incoming arrivals : List Arrival} {replies answers : List Reply}
    {clock now : Nat} {items : List Frame} {sender receiver : Streaming}
    {trace : List (Call × Answer)} (deflates : senderOpts.compression.isSome)
    (inflates : receiverOpts.compression.isSome) (messages : Messages false items)
    (emitted : (Streaming.new senderFlate (.new incoming replies clock) senderOpts).sendFrames
      items = some sender)
    (arrived : (arriving arrivals).map Frame.content = sender.handed.map Frame.content)
    (frames : OnlyFrames arrivals)
    (run : Trace.Run (fun (receiver : Streaming) call => some (receiver.step call))
      (fun _ _ => True) (.new receiverFlate (.new arrivals answers now) receiverOpts)
      trace receiver) :
    let compresses :=
      (Streaming.new senderFlate (.new incoming replies clock) senderOpts).sender.compresses
    sender.sender.calls = ((items.filter compresses).map fun item => (item.payload, item.fin)) ∧
    ∃ passed refused rest,
      items.zip (arriving arrivals) = passed ++ refused ++ rest ∧
      arriving receiver.stream.incoming = rest.map Prod.snd ∧
      receiver.inflateCalls = callsFor compresses (passed ++ refused) ∧
      List.Forall₂ (Passed compresses) passed (trace.filterMap (·.2.delivered)) ∧
      CloseLast ((passed ++ refused).map Prod.fst) ∧ refused.length ≤ 1 ∧
      (receiver.readHalf.isClosed = false → refused = []) ∧
      (receiver.readHalf.isClosed → refused ≠ [] ∨ ¬ NoClose (passed.map Prod.fst)) := by
  intro compresses
  obtain ⟨sent, all, handed⟩ := Streaming.sendFrames_sent emitted
  obtain rfl : sender.handed = sent := handed
  have deflating :
      (Streaming.new senderFlate (.new incoming replies clock) senderOpts).sender.deflate.isSome := by
    simpa [Streaming.sender, Streaming.new] using deflates
  obtain ⟨shown, length, calls⟩ := Sender.sendAll_emitted deflating messages all
  have count : (arriving arrivals).length = items.length := by
    rw [← length]
    simpa using congrArg List.length arrived
  have start : InStep compresses [] [] (items.zip (arriving arrivals)) []
      (.new receiverFlate (.new arrivals answers now) receiverOpts) := by
    constructor
    · exact .nil
    · simpa [Streaming.new] using inflates
    · cases config : receiverOpts.compression <;>
        simp [Streaming.inflateCalls, Streaming.new, config, Flate.decompressor, callsFor]
    · exact (List.map_snd_zip (Nat.le_of_eq count)).symm
    · exact frames
    · exact fun _ => ⟨rfl, by simp [NoClose], shown.arrived arrived⟩
    · simp [Streaming.new, ReadHalf.new]
    · exact Nat.zero_le _
    · trivial
  obtain ⟨passed, refused, rest, split, step⟩ := Follows.run run ⟨[], [], _, rfl, start⟩
  refine ⟨?_, passed, refused, rest, split, step.arriving, step.calls, step.passes, step.closeLast,
    step.single, fun reading => (step.opened reading).1, step.closed⟩
  rw [calls]
  cases config : senderOpts.compression <;>
    simp [Sender.calls, Streaming.sender, Streaming.new, config, Flate.compressor, compresses]

end Agreement

/-- A small message that is not compressed, a Ping, and a fragmented one. -/
theorem contexts_agree_mixed :
    ∃ sender trace receiver,
      (Streaming.new .stored (.new [] [] 0)
        { Negotiation.deflated with compressionThreshold := 2 }).sendFrames
        [.text [104], (Frame.text [105]).withFin false, .ping [], .continuation [106]] = some sender ∧
      Trace.Run (fun (receiver : Streaming) call => some (receiver.step call)) (fun _ _ => True)
        (.new .stored (.new (sender.handed.map (.at 0)) [] 0) .deflated) trace receiver ∧
      sender.sender.calls = [([105], false), ([106], true)] ∧
      receiver.inflateCalls = [([105], false), ([106], true)] ∧
      ∃ passed refused rest,
        [Frame.text [104], (Frame.text [105]).withFin false, .ping [], .continuation [106]].zip
          (arriving (sender.handed.map (.at 0))) = passed ++ refused ++ rest ∧
        receiver.inflateCalls =
          callsFor (Streaming.new .stored (.new [] [] 0)
            { Negotiation.deflated with compressionThreshold := 2 }).sender.compresses
            (passed ++ refused) := by
  have setting : ∃ sender trace receiver,
      (Streaming.new .stored (.new [] [] 0)
        { Negotiation.deflated with compressionThreshold := 2 }).sendFrames
        [.text [104], (Frame.text [105]).withFin false, .ping [], .continuation [106]] = some sender ∧
      Trace.Run (fun (receiver : Streaming) call => some (receiver.step call)) (fun _ _ => True)
        (.new .stored (.new (sender.handed.map (.at 0)) [] 0) .deflated) trace receiver ∧
      sender.sender.calls = [([105], false), ([106], true)] ∧
      receiver.inflateCalls = [([105], false), ([106], true)] :=
    ⟨_, _, _, rfl, .of_exec [.pollNextFrame, .pollNextFrame, .pollNextFrame, .pollNextFrame] rfl,
      by decide, by decide⟩
  obtain ⟨sender, trace, receiver, emitted, run, compressed, inflated⟩ := setting
  have frames : OnlyFrames (sender.handed.map (.at 0)) := by
    intro arrival member
    obtain ⟨frame, -, rfl⟩ := List.mem_map.mp member
    exact .inr ⟨frame, rfl⟩
  have arrived : (arriving (sender.handed.map (.at 0))).map Frame.content =
      sender.handed.map Frame.content := by
    simp [arriving, Arrival.at, List.filterMap_map, Function.comp_def]
  obtain ⟨-, passed, refused, rest, split, -, calls, -⟩ :=
    contexts_agree .stored .stored { Negotiation.deflated with compressionThreshold := 2 } .deflated
      rfl rfl (by simp [Messages, Frame.text, Frame.ping, Frame.continuation, Frame.new,
        Frame.withFin, OpCode.isControl]) emitted arrived frames run
  exact ⟨sender, trace, receiver, emitted, run, compressed, inflated, passed, refused, rest, split,
    calls⟩

end Yawc
