import Yawc.Native.Reassembly

/-! What a connection holds of an open message, and how long the messages are
that it delivers. -/

namespace Yawc

/-- A frame of a message that is sent in fragments. -/
def Frame.isFragment (frame : Frame) : Bool := !frame.fin || frame.opcode = .continuation

/-- The buffer holds what has been read of the open message, less than the
limit. -/
def FragmentLayer.Bounded (self : FragmentLayer) : Prop :=
  ∀ fragment, self.incomingFragment = some fragment →
    self.incomingBuffer.length = fragment.bytesRead ∧ fragment.bytesRead < self.maxReadBuffer

namespace Streaming

theorem maxOutputSize_fragment (self : Streaming) (frame : Frame) (maxReadBuffer : Nat) :
    self.maxOutputSize frame maxReadBuffer =
      if frame.isFragment then min self.maxPayloadRead maxReadBuffer else self.maxPayloadRead := by
  simp [maxOutputSize, Frame.isFragment]

/-- What a data frame keeps within when a read delivers it. -/
structure Fitting (maxPayloadRead maxReadBuffer : Nat) (frame : Frame) : Prop where
  payload : frame.payload.length < maxPayloadRead
  fragment : frame.isFragment → frame.payload.length < maxReadBuffer

theorem onFrame_fitting {self after : Streaming} {frame received : Frame} {maxReadBuffer : Nat}
    (taken : self.onFrame frame maxReadBuffer = (.ok received, after))
    (data : frame.opcode.isControl = false) :
    Fitting self.maxPayloadRead maxReadBuffer received := by
  have outcome := self.onFrame_outcome frame maxReadBuffer
  rw [taken] at outcome
  cases outcome with
  | ping opcode => simp [opcode, OpCode.isControl] at data
  | pong opcode => simp [opcode, OpCode.isControl] at data
  | close opcode _ => simp [opcode, OpCode.isControl] at data
  | data _ inflated =>
    obtain ⟨opcode, fin, -, within⟩ := onData_ok inflated
    have same : received.isFragment = frame.isFragment := by simp [Frame.isFragment, opcode, fin]
    rw [maxOutputSize_fragment, ← same] at within
    constructor
    · split at within
      · exact Nat.lt_of_lt_of_le within (Nat.min_le_left _ _)
      · exact within
    · intro fragment
      rw [if_pos fragment] at within
      exact Nat.lt_of_lt_of_le within (Nat.min_le_right _ _)

/-- Frames leave the settings alone. -/
theorem onFrame_settings {self after : Streaming} {frame : Frame} {maxReadBuffer : Nat}
    {result : Result Frame} (taken : self.onFrame frame maxReadBuffer = (result, after)) :
    after.maxPayloadRead = self.maxPayloadRead := by
  have outcome := self.onFrame_outcome frame maxReadBuffer
  rw [taken] at outcome
  cases outcome <;> rfl

end Streaming

namespace FragmentLayer

variable {self : FragmentLayer} {frame : Frame}

theorem remainingReadCapacity_opened {fragment : FragmentationState}
    (opened : self.incomingFragment = some fragment) :
    self.remainingReadCapacity = self.maxReadBuffer - fragment.bytesRead := by
  simp [remainingReadCapacity, opened]

theorem remainingReadCapacity_none (closed : self.incomingFragment = none) :
    self.remainingReadCapacity = self.maxReadBuffer := by
  simp [remainingReadCapacity, closed]

/-- The open message has been open for too long. -/
def expired (self : FragmentLayer) (fragment : FragmentationState) (now : Nat) : Bool :=
  self.fragmentTimeout.any fun timeout => timeout < now - fragment.started

/-- What a fragment behind the first can do. -/
inductive Continues (self : FragmentLayer) (fragment : FragmentationState) (frame : Frame)
    (now : Nat) : Result (Option Frame) → FragmentLayer → Prop where
  | tooLarge (large : self.maxReadBuffer ≤ fragment.bytesRead + frame.payload.length) :
      Continues self fragment frame now (.error .frameTooLarge)
        { self with incomingFragment := none }
  | late (small : fragment.bytesRead + frame.payload.length < self.maxReadBuffer)
      (expired : self.expired fragment now) :
      Continues self fragment frame now (.error .fragmentTimeout)
        { self with incomingFragment := none }
  | last (small : fragment.bytesRead + frame.payload.length < self.maxReadBuffer)
      (timely : self.expired fragment now = false) (fin : frame.fin) :
      Continues self fragment frame now
        (.ok (some { frame with
          opcode := fragment.opcode
          isCompressed := fragment.isCompressed
          payload := self.incomingBuffer ++ frame.payload }))
        { self with incomingFragment := none, incomingBuffer := [] }
  | more (small : fragment.bytesRead + frame.payload.length < self.maxReadBuffer)
      (timely : self.expired fragment now = false) (fin : frame.fin = false) :
      Continues self fragment frame now (.ok none)
        { self with
          incomingBuffer := self.incomingBuffer ++ frame.payload
          incomingFragment := some { fragment with
            bytesRead := fragment.bytesRead + frame.payload.length } }

theorem continueMessage_continues (self : FragmentLayer) (fragment : FragmentationState)
    (frame : Frame) (now : Nat) :
    Continues self fragment frame now (self.continueMessage fragment frame now).1
      (self.continueMessage fragment frame now).2 := by
  simp only [continueMessage]
  split
  · rename_i large
    exact .tooLarge large
  · rename_i small
    have within := Nat.lt_of_not_le small
    split
    · rename_i late
      exact .late within late
    · rename_i inTime
      have timely : self.expired fragment now = false := by simpa [expired] using inTime
      split
      · rename_i fin
        exact .last within timely fin
      · rename_i fin
        exact .more within timely (by simpa using fin)

/-- What a frame can do in assembly. -/
inductive Assembles (self : FragmentLayer) (frame : Frame) (now : Nat) :
    Result (Option Frame) → FragmentLayer → Prop where
  | control (control : frame.opcode.isControl) : Assembles self frame now (.ok (some frame)) self
  | stray (data : frame.opcode.isControl = false)
      (stray : ¬ (frame.opcode = .continuation ↔ self.incomingFragment.isSome)) :
      Assembles self frame now (.error .invalidFragment) self
  | whole (data : frame.opcode = .text ∨ frame.opcode = .binary)
      (closed : self.incomingFragment = none) (fin : frame.fin) :
      Assembles self frame now (.ok (some frame)) self
  | first (data : frame.opcode = .text ∨ frame.opcode = .binary)
      (closed : self.incomingFragment = none) (fin : frame.fin = false) :
      Assembles self frame now (.ok none)
        { self with
          incomingBuffer := frame.payload
          incomingFragment := some {
            started := now
            opcode := frame.opcode
            isCompressed := frame.isCompressed
            bytesRead := frame.payload.length } }
  | next {fragment : FragmentationState} {result : Result (Option Frame)} {after : FragmentLayer}
      (data : frame.opcode = .continuation) (opened : self.incomingFragment = some fragment)
      (taken : self.continueMessage fragment frame now = (result, after)) :
      Assembles self frame now result after

theorem assembleIncoming_assembles (self : FragmentLayer) (frame : Frame) (now : Nat) :
    Assembles self frame now (self.assembleIncoming frame now).1
      (self.assembleIncoming frame now).2 := by
  have begins (data : frame.opcode = .text ∨ frame.opcode = .binary) :
      Assembles self frame now (self.assembleIncoming frame now).1
        (self.assembleIncoming frame now).2 := by
    have other : frame.opcode ≠ .continuation := by rcases data with kind | kind <;> simp [kind]
    have kind : frame.opcode.isControl = false := by
      rcases data with kind | kind <;> simp [kind, OpCode.isControl]
    cases opened : self.incomingFragment with
    | some fragment =>
      have refused : self.assembleIncoming frame now = (.error .invalidFragment, self) := by
        rcases data with kind | kind <;> simp [assembleIncoming, kind, opened]
      rw [refused]
      exact .stray kind (by simp [other, opened])
    | none =>
      cases fin : frame.fin with
      | true =>
        rw [assembleIncoming_whole data opened fin]
        exact .whole data opened fin
      | false =>
        rw [assembleIncoming_first data opened fin]
        exact .first data opened fin
  cases opcode : frame.opcode with
  | text => exact begins (.inl opcode)
  | binary => exact begins (.inr opcode)
  | continuation =>
    cases opened : self.incomingFragment with
    | none =>
      have refused : self.assembleIncoming frame now = (.error .invalidFragment, self) := by
        simp [assembleIncoming, opcode, opened]
      rw [refused]
      exact .stray (by simp [opcode, OpCode.isControl]) (by simp [opcode, opened])
    | some fragment =>
      have goesOn : self.assembleIncoming frame now = self.continueMessage fragment frame now := by
        simp [assembleIncoming, opcode, opened]
      rw [goesOn]
      exact .next opcode opened rfl
  | close | ping | pong =>
    have control : frame.opcode.isControl := by simp [opcode, OpCode.isControl]
    rw [assembleIncoming_control control]
    exact .control control

/-- Assembly of a frame that the layer below let through keeps the bound, never
refuses the frame for its size, and delivers a message within the limit. -/
theorem Bounded.assembleIncoming {maxPayloadRead : Nat} (bounded : self.Bounded)
    (fits : frame.opcode.isControl = false →
      Streaming.Fitting maxPayloadRead self.remainingReadCapacity frame) (now : Nat) :
    (self.assembleIncoming frame now).2.Bounded ∧
      (self.assembleIncoming frame now).1 ≠ .error .frameTooLarge ∧
      ∀ whole, (self.assembleIncoming frame now).1 = .ok (some whole) →
        if frame.opcode = .continuation then whole.payload.length < self.maxReadBuffer
        else whole = frame := by
  have outcome := self.assembleIncoming_assembles frame now
  generalize self.assembleIncoming frame now = assembled at outcome ⊢
  obtain ⟨result, after⟩ := assembled
  dsimp only at outcome ⊢
  cases outcome with
  | control control =>
    have other : frame.opcode ≠ .continuation := fun same => by
      simp [same, OpCode.isControl] at control
    exact ⟨bounded, by simp, by simp [other, eq_comm]⟩
  | stray _ _ => exact ⟨bounded, by simp, by simp⟩
  | whole data _ _ =>
    have other : frame.opcode ≠ .continuation := by rcases data with kind | kind <;> simp [kind]
    exact ⟨bounded, by simp, by simp [other, eq_comm]⟩
  | first data closed fin =>
    have kind : frame.opcode.isControl = false := by
      rcases data with kind | kind <;> simp [kind, OpCode.isControl]
    have room := (fits kind).fragment (by simp [Frame.isFragment, fin])
    rw [remainingReadCapacity_none closed] at room
    refine ⟨?_, by simp, by simp⟩
    intro fragment found
    simp only [Option.some.injEq] at found
    subst found
    exact ⟨rfl, room⟩
  | @next fragment _ _ data opened continued =>
    obtain ⟨size, -⟩ := bounded fragment opened
    have kind : frame.opcode.isControl = false := by simp [data, OpCode.isControl]
    have room := (fits kind).fragment (by simp [Frame.isFragment, data])
    rw [remainingReadCapacity_opened opened] at room
    have continues := self.continueMessage_continues fragment frame now
    rw [continued] at continues
    cases continues with
    | tooLarge large => omega
    | late _ _ => exact ⟨by simp [Bounded], by simp, by simp⟩
    | last small _ _ =>
      refine ⟨by simp [Bounded], by simp, ?_⟩
      rintro whole found
      simp only [Except.ok.injEq, Option.some.injEq] at found
      subst found
      simp only [data, ↓reduceIte, List.length_append]
      omega
    | more small _ _ =>
      refine ⟨?_, by simp, by simp⟩
      intro fragment found
      simp only [Option.some.injEq] at found
      subst found
      simp only [List.length_append]
      exact ⟨by omega, small⟩

end FragmentLayer

def WebSocketError.isIo : WebSocketError → Bool
  | ioError _ => true
  | _ => false

/-- The sink of the transport only fails with I/O errors. -/
def Framed.FailsByIo (self : Framed) : Prop :=
  ∀ error, .ready (.error error) ∈ self.replies → error.isIo

namespace Streaming

/-- What every read keeps. -/
structure ReadFrame (before after : Streaming) : Prop where
  maxPayloadRead : after.maxPayloadRead = before.maxPayloadRead
  replies : after.stream.replies <:+ before.stream.replies
  incoming : after.stream.incoming <:+ before.stream.incoming

private theorem ReadFrame.trans {first second third : Streaming} (left : ReadFrame first second)
    (right : ReadFrame second third) : ReadFrame first third :=
  ⟨right.maxPayloadRead.trans left.maxPayloadRead, right.replies.trans left.replies,
    right.incoming.trans left.incoming⟩

private theorem ReadFrame.of_flushes {before middle : Streaming}
    {attempt : Poll.Attempt WebSocketError Streaming Frame} {later : Framed}
    {item : Poll (Option (Result Frame))} (flushes : Flushes middle attempt)
    (takes : before.stream.Takes later item) (stream : middle.stream = later)
    (same : middle.maxPayloadRead = before.maxPayloadRead) : ReadFrame before attempt.2 := by
  have reader := flushes.reader
  subst stream
  refine ⟨reader.maxPayloadRead.trans same, ?_, ?_⟩
  · exact takes.replies ▸ reader.stream.replies
  · exact reader.stream.incoming ▸ takes.suffix

private theorem ReadFrame.of_onFrame {before after : Streaming} {later : Framed}
    {readHalf : ReadHalf}
    {item : Poll (Option (Result Frame))} {frame : Frame} {maxReadBuffer : Nat}
    {result : Result Frame} (takes : before.stream.Takes later item)
    (taken : Streaming.onFrame { before with stream := later, readHalf } frame maxReadBuffer =
      (result, after)) : ReadFrame before after := by
  have stream := onFrame_stream taken
  have settings := onFrame_settings taken
  refine ⟨settings, ?_, ?_⟩
  · exact stream ▸ takes.replies ▸ List.suffix_rfl
  · exact stream ▸ takes.suffix

private theorem pollNextFrameWithLimit_frame (self : Streaming) (maxReadBuffer : Nat) :
    ReadFrame self (self.pollNextFrameWithLimit maxReadBuffer).2 := by
  have step := self.pollNextFrameWithLimit_step maxReadBuffer
  generalize self.pollNextFrameWithLimit maxReadBuffer = result at step ⊢
  cases step with
  | closed closed =>
    have reader := (self.silent_flushes (.inr rfl)).1.reader
    exact ⟨reader.maxPayloadRead, reader.stream.replies, reader.stream.incoming ▸ List.suffix_rfl⟩
  | @silent later _ takes =>
    have flushes := (silent_flushes { self with stream := later } (.inl rfl)).1
    exact .of_flushes flushes takes rfl rfl
  | @ended later _ takes =>
    have flushes := (silent_flushes
      { self with stream := later, readHalf := { self.readHalf with isClosed := true } }
      (.inr rfl)).1
    exact .of_flushes flushes takes rfl rfl
  | failed _ takes _ =>
    exact ⟨rfl, takes.replies ▸ List.suffix_rfl, takes.suffix⟩
  | accepted _ takes taken => exact .of_onFrame takes taken
  | refused _ takes taken _ =>
    have frame := ReadFrame.of_onFrame takes taken
    exact ⟨frame.maxPayloadRead, frame.replies, frame.incoming⟩

/-- An error that is neither the end of the connection nor the sink's is
answered by a Close, the last thing that is owed. -/
theorem pollNextFrameWithLimit_error {self after : Streaming} {error : WebSocketError}
    {maxReadBuffer : Nat}
    (failed : self.pollNextFrameWithLimit maxReadBuffer = (.ready (.error error), after))
    (cause : error ≠ .connectionClosed) (other : .ready (.error error) ∉ self.stream.replies) :
    ∃ earlier, after.queued = earlier ++ [closeFor error] := by
  have step := self.pollNextFrameWithLimit_step maxReadBuffer
  rw [failed] at step
  generalize same : (Poll.ready (Except.error error), after) = result at step
  have quiet {middle : Streaming} {polled : Poll (Result Frame)}
      (replies : middle.stream.replies = self.stream.replies)
      (silent : polled = .pending ∨ polled = .ready (.error .connectionClosed))
      (flushed : (Poll.ready (Except.error error), after) =
        Poll.andThen middle.pollFlushObligated fun _ next => (polled, next)) : False := by
    have flushes := (middle.silent_flushes silent).1
    rw [← flushed] at flushes
    rcases flushes.cause error rfl with closed | sink
    · exact cause closed
    · exact other (replies ▸ sink)
  cases step with
  | closed _ => exact (quiet rfl (.inr rfl) same).elim
  | silent _ takes => exact (quiet takes.replies (.inl rfl) same).elim
  | ended _ takes => exact (quiet takes.replies (.inr rfl) same).elim
  | failed _ _ _ =>
    simp only [Prod.mk.injEq, Poll.ready.injEq, Except.error.injEq] at same
    obtain ⟨rfl, rfl⟩ := same
    exact ⟨_, rfl⟩
  | accepted _ _ _ => simp at same
  | refused _ _ _ _ =>
    simp only [Prod.mk.injEq, Poll.ready.injEq, Except.error.injEq] at same
    obtain ⟨rfl, rfl⟩ := same
    exact ⟨_, rfl⟩

end Streaming

/-- What is known of a delivered message from the last frame that was read for
it: in one piece it is shorter than the limit on payloads, put together it is
shorter than the limit on the buffer. -/
structure Limits.Passes (limits : Limits) (raw message : Frame) : Prop where
  whole : raw.opcode = .text ∨ raw.opcode = .binary →
    message.payload.length < limits.maxPayloadRead
  assembled : raw.opcode = .continuation → message.payload.length < limits.maxReadBuffer

namespace WebSocket

variable {self middle after : WebSocket}

theorem pollStreaming_eq {answer : Poll (Result Frame)}
    (polled : self.pollStreaming = (answer, after)) :
    ∃ streaming, after = { self with streaming } ∧
      self.streaming.pollNextFrameWithLimit self.fragmentLayer.remainingReadCapacity =
        (answer, streaming) := by
  simp only [pollStreaming, Prod.mk.injEq] at polled
  obtain ⟨rfl, rfl⟩ := polled
  exact ⟨_, rfl, rfl⟩

/-- What a read does with sizes. -/
structure Sized (before : WebSocket) (result : Poll (Result Frame) × WebSocket) : Prop where
  bounded : result.2.fragmentLayer.Bounded
  delivered : ∀ message, result.1 = .ready (.ok message) →
    ∃ skipped arrival raw,
      before.streaming.stream.incoming =
        skipped ++ arrival :: result.2.streaming.stream.incoming ∧
      arrival.item = .ready (some (.ok raw)) ∧ before.limits.Passes raw message
  refused : before.streaming.stream.FailsByIo → result.1 = .ready (.error .frameTooLarge) →
    ∃ earlier, result.2.streaming.queued = earlier ++ [Streaming.closeFor .frameTooLarge]

/-- One round brings a frame that keeps within the limits. -/
theorem pollStreaming_fitting {frame : Frame}
    (polled : self.pollStreaming = (.ready (.ok frame), middle)) :
    ∃ skipped arrival raw,
      self.streaming.stream.incoming =
        skipped ++ arrival :: middle.streaming.stream.incoming ∧
      arrival.item = .ready (some (.ok raw)) ∧ raw.opcode = frame.opcode ∧
      (frame.opcode.isControl = false → Streaming.Fitting self.streaming.maxPayloadRead
        self.fragmentLayer.remainingReadCapacity frame) := by
  obtain ⟨streaming, rfl, read⟩ := pollStreaming_eq polled
  obtain ⟨raw, later, -, takes, taken⟩ := Streaming.pollNextFrameWithLimit_ok read
  have stream := Streaming.onFrame_stream taken
  have opcode : frame.opcode = raw.opcode := (Streaming.onFrame_received taken).1
  obtain ⟨skipped, -, arrival, item, split, -⟩ := takes.taken
  refine ⟨skipped, arrival, raw, by rw [split, stream], item, opcode.symm, fun data => ?_⟩
  have kind : (self.streaming.readHalf.receive raw).1.opcode.isControl = false := opcode ▸ data
  have fitting := Streaming.onFrame_fitting taken kind
  exact fitting

theorem pollStreaming_same {answer : Poll (Result Frame)}
    (polled : self.pollStreaming = (answer, middle)) :
    middle.limits = self.limits ∧ middle.fragmentLayer = self.fragmentLayer ∧
      Streaming.ReadFrame self.streaming middle.streaming := by
  obtain ⟨streaming, rfl, read⟩ := pollStreaming_eq polled
  have frame := self.streaming.pollNextFrameWithLimit_frame
    self.fragmentLayer.remainingReadCapacity
  rw [read] at frame
  have same : streaming.maxPayloadRead = self.streaming.maxPayloadRead := frame.maxPayloadRead
  exact ⟨by simp [limits, same], rfl, frame⟩

/-- Settings survive assembly. -/
theorem onFrame_limits (self : WebSocket) (frame : Frame) :
    (self.onFrame frame).2.limits = self.limits := by
  have layer := self.onFrame_fragmentLayer frame
  have same := self.fragmentLayer.assembleIncoming_same frame self.streaming.stream.clock
  have check : (self.onFrame frame).2.checkUtf8 = self.checkUtf8 := by
    unfold onFrame
    dsimp only
    split
    · split <;> rfl
    · rfl
  simp [limits, layer, same.2.2.1, same.2.2.2, check]

/-- What assembly delivers passed the check of its text. -/
theorem onFrame_result {frame : Frame} {result : Result (Option Frame)}
    (taken : self.onFrame frame = (result, after)) :
    (self.fragmentLayer.assembleIncoming frame self.streaming.stream.clock).1 = result ∨
      result = .error .invalidUTF8 := by
  unfold onFrame at taken
  dsimp only at taken
  split at taken
  · rename_i whole assembled
    split at taken
    · exact .inr (Prod.mk.inj taken).1.symm
    · exact .inl (assembled.trans (Prod.mk.inj taken).1)
  · exact .inl (Prod.mk.inj taken).1

/-- What a read keeps, round by round. -/
theorem Rounds.kept {result : Poll (Result Frame) × WebSocket} (rounds : Rounds self result) :
    result.2.limits = self.limits ∧ Streaming.ReadFrame self.streaming result.2.streaming := by
  have frame {self middle after : WebSocket} {frame : Frame} {assembled : Result (Option Frame)}
      (polled : self.pollStreaming = (.ready (.ok frame), middle))
      (taken : middle.onFrame frame = (assembled, after)) :
      after.limits = self.limits ∧ Streaming.ReadFrame self.streaming after.streaming := by
    obtain ⟨limits, -, kept⟩ := pollStreaming_same polled
    have settings := middle.onFrame_limits frame
    have streaming := middle.onFrame_streaming frame
    rw [taken] at settings streaming
    exact ⟨settings.trans limits, (show after.streaming = _ from streaming) ▸ kept⟩
  induction rounds with
  | stop polled _ => exact ⟨(pollStreaming_same polled).1, (pollStreaming_same polled).2.2⟩
  | refuse polled taken => exact frame polled taken
  | deliver polled taken => exact frame polled taken
  | again polled taken _ ih =>
    obtain ⟨limits, kept⟩ := frame polled taken
    exact ⟨ih.1.trans limits, kept.trans ih.2⟩

private theorem onFrame_sized {frame : Frame} {result : Result (Option Frame)}
    (bounded : self.fragmentLayer.Bounded)
    (fits : frame.opcode.isControl = false → Streaming.Fitting self.streaming.maxPayloadRead
      self.fragmentLayer.remainingReadCapacity frame)
    (taken : self.onFrame frame = (result, after)) :
    after.fragmentLayer.Bounded ∧ result ≠ .error .frameTooLarge ∧
      ∀ message, result = .ok (some message) → self.limits.Passes frame message := by
  have layer := self.onFrame_fragmentLayer frame
  rw [taken] at layer
  obtain ⟨kept, notLarge, within⟩ :=
    bounded.assembleIncoming fits self.streaming.stream.clock
  rw [← layer] at kept
  rcases onFrame_result taken with same | invalid
  · rw [same] at notLarge within
    refine ⟨kept, notLarge, fun message found => ?_⟩
    have passed := within message found
    constructor
    · intro data
      have other : frame.opcode ≠ .continuation := by rcases data with kind | kind <;> simp [kind]
      have kind : frame.opcode.isControl = false := by
        rcases data with kind | kind <;> simp [kind, OpCode.isControl]
      rw [if_neg other] at passed
      exact passed ▸ (fits kind).payload
    · intro continuation
      rw [if_pos continuation] at passed
      exact passed
  · subst invalid
    exact ⟨kept, by simp, by simp⟩

/-- The sizes of one round that brings a frame. -/
structure SizedRound (before : WebSocket) (result : Result (Option Frame)) (after : WebSocket) :
    Prop where
  bounded : after.fragmentLayer.Bounded
  limits : after.limits = before.limits
  replies : after.streaming.stream.replies <:+ before.streaming.stream.replies
  notLarge : result ≠ .error .frameTooLarge
  read : ∃ skipped arrival raw,
    before.streaming.stream.incoming = skipped ++ arrival :: after.streaming.stream.incoming ∧
    arrival.item = .ready (some (.ok raw)) ∧
    ∀ message, result = .ok (some message) → before.limits.Passes raw message

private theorem round_sized {frame : Frame} {result : Result (Option Frame)}
    (bounded : self.fragmentLayer.Bounded)
    (polled : self.pollStreaming = (.ready (.ok frame), middle))
    (taken : middle.onFrame frame = (result, after)) : SizedRound self result after := by
  obtain ⟨limits, layer, kept⟩ := pollStreaming_same polled
  obtain ⟨skipped, arrival, raw, split, item, opcode, fits⟩ := pollStreaming_fitting polled
  have settings := middle.onFrame_limits frame
  have streaming := middle.onFrame_streaming frame
  rw [taken] at settings streaming
  dsimp only at settings streaming
  obtain ⟨final, notLarge, passes⟩ := onFrame_sized (layer ▸ bounded)
    (by rw [layer, kept.maxPayloadRead]; exact fits) taken
  rw [← streaming] at kept split
  refine ⟨final, settings.trans limits, kept.replies, notLarge, skipped, arrival, raw, split, item,
    ?_⟩
  intro message found
  have passed := passes message found
  rw [limits] at passed
  exact ⟨opcode ▸ passed.whole, opcode ▸ passed.assembled⟩

/-- The sizes of a read, round by round. -/
theorem Rounds.sized {result : Poll (Result Frame) × WebSocket} (rounds : Rounds self result)
    (bounded : self.fragmentLayer.Bounded) : Sized self result := by
  induction rounds with
  | @stop self after answer polled nothing =>
    obtain ⟨-, layer, -⟩ := pollStreaming_same polled
    refine ⟨layer ▸ bounded, fun message found => absurd found (nothing message),
      fun byIo refused => ?_⟩
    obtain ⟨streaming, rfl, read⟩ := pollStreaming_eq polled
    dsimp only at refused
    subst refused
    refine Streaming.pollNextFrameWithLimit_error read (by simp) fun sink => ?_
    simpa [WebSocketError.isIo] using byIo _ sink
  | refuse polled taken =>
    have round := round_sized bounded polled taken
    refine ⟨round.bounded, by simp, fun _ refused => ?_⟩
    simp only [Poll.ready.injEq, Except.error.injEq] at refused
    exact absurd (by rw [refused]) round.notLarge
  | deliver polled taken =>
    have round := round_sized bounded polled taken
    refine ⟨round.bounded, ?_, by simp⟩
    intro other found
    simp only [Poll.ready.injEq, Except.ok.injEq] at found
    subst found
    obtain ⟨skipped, arrival, raw, split, item, passes⟩ := round.read
    exact ⟨skipped, arrival, raw, split, item, passes _ rfl⟩
  | again polled taken _ ih =>
    have round := round_sized bounded polled taken
    have later := ih round.bounded
    refine ⟨later.bounded, ?_, ?_⟩
    · intro message found
      obtain ⟨skipped, arrival, raw, split, -, -⟩ := round.read
      obtain ⟨passed, last, frame, rest, item, passes⟩ := later.delivered message found
      rw [round.limits] at passes
      exact ⟨skipped ++ arrival :: passed, last, frame, by rw [split, rest]; simp, item, passes⟩
    · intro byIo
      exact later.refused fun error sink => byIo error (round.replies.subset sink)

theorem OnlyWrites.limits (writes : OnlyWrites self after) : after.limits = self.limits := by
  obtain ⟨waiting, layer⟩ := writes.layer
  simp [WebSocket.limits, writes.reader.maxPayloadRead, layer, writes.checkUtf8]

theorem OnlyWrites.bounded (writes : OnlyWrites self after)
    (bounded : self.fragmentLayer.Bounded) : after.fragmentLayer.Bounded := by
  obtain ⟨waiting, layer⟩ := writes.layer
  rw [layer]
  exact bounded

theorem pollNextFrame_sized (bounded : self.fragmentLayer.Bounded) :
    Sized self self.pollNextFrame :=
  self.pollNextFrame_rounds.sized bounded

/-- No call lets the buffer grow past its limit. -/
theorem step_bounded {call : Call} {answer : Answer} (bounded : self.fragmentLayer.Bounded)
    (taken : self.step call = some (answer, after)) :
    after.fragmentLayer.Bounded ∧ after.limits = self.limits ∧
      after.streaming.stream.replies <:+ self.streaming.stream.replies := by
  by_cases reading : call = .pollNextFrame
  · subst reading
    simp only [step, Option.some.injEq, Prod.mk.injEq] at taken
    obtain ⟨-, rfl⟩ := taken
    obtain ⟨limits, kept⟩ := self.pollNextFrame_rounds.kept
    exact ⟨(pollNextFrame_sized bounded).bounded, limits, kept.replies⟩
  · have writes := step_writes reading taken
    exact ⟨writes.bounded bounded, writes.limits, writes.reader.stream.replies⟩

theorem new_bounded (flate : Flate) (stream : Framed) (opts : Negotiation) :
    (new flate stream opts).fragmentLayer.Bounded := by
  simp [FragmentLayer.Bounded, new, FragmentLayer.new]

end WebSocket

end Yawc
