import Yawc.Native.Outcomes
import Yawc.Library.Trace

/-! Read errors. The streaming layer answers each with a Close and stops
reading; the layer above it reports its own without telling the one below. -/

namespace Yawc

namespace Streaming

/-- The Close frames ever queued for the peer. -/
def closes (self : Streaming) : List Frame := self.queued.filter (·.opcode = .close)

theorem closes_oblige (self : Streaming) (frame : Frame) :
    (self.oblige frame).closes = self.closes ++ if frame.opcode = .close then [frame] else [] := by
  simp only [closes, oblige, List.filter_append]
  congr 1
  by_cases close : frame.opcode = .close <;> simp [close]

private theorem closes_emitClose (self : Streaming) {frame : Frame}
    (close : frame.opcode = .close) :
    (self.emitClose frame).closes = self.closes ++ [frame] := by
  have obliged := self.closes_oblige frame
  rw [if_pos close] at obliged
  exact obliged

/-- An open reader has queued no Close. -/
def OpenUnclosed (self : Streaming) : Prop := self.readHalf.isClosed = false → self.closes = []

/-- The reader has stopped behind an error, and the Close that names it is the
only one queued. -/
def ShutBy (self : Streaming) (error : WebSocketError) : Prop :=
  self.readHalf.isClosed ∧ self.closes = [closeFor error]

theorem OpenUnclosed.of_same {before after : Streaming} (same : SameReader before after)
    (unclosed : before.OpenUnclosed) : after.OpenUnclosed := by
  simpa only [OpenUnclosed, closes, same.readHalf, same.queued] using unclosed

private theorem ShutBy.of_same {before after : Streaming} {error : WebSocketError}
    (same : SameReader before after) (shut : before.ShutBy error) : after.ShutBy error := by
  simpa only [ShutBy, closes, same.readHalf, same.queued] using shut

/-- What a read keeps: an open reader queues no Close, and an error of the
received data shuts it. -/
structure ReadKeeps (before : Streaming) (answer : Poll (Result Frame)) (after : Streaming) :
    Prop where
  replies : after.stream.replies <:+ before.stream.replies
  unclosed : before.OpenUnclosed → after.OpenUnclosed
  shut : before.OpenUnclosed → ∀ error, answer = .ready (.error error) →
    error ≠ .connectionClosed → .ready (.error error) ∉ before.stream.replies → after.ShutBy error

/-- A flush behind a poll of the reader. -/
theorem ReadKeeps.of_flushes {before middle : Streaming}
    {attempt : Poll.Attempt WebSocketError Streaming Frame}
    (replies : middle.stream.replies = before.stream.replies)
    (unclosed : before.OpenUnclosed → middle.OpenUnclosed) (flushes : Flushes middle attempt) :
    ReadKeeps before attempt.1 attempt.2 := by
  obtain ⟨⟨popped, effect⟩, cause⟩ := flushes
  refine ⟨replies ▸ effect.reader.stream.replies, fun fine => .of_same effect.reader (unclosed fine), ?_⟩
  intro _ error failed notClosed unreported
  rcases cause error failed with closed | reported
  · exact absurd closed notClosed
  · exact absurd (replies ▸ reported) unreported

/-- An error that is answered by a Close. -/
theorem ReadKeeps.of_error {before middle : Streaming} {error : WebSocketError}
    (reading : before.readHalf.isClosed = false) (queued : middle.queued = before.queued)
    (replies : middle.stream.replies = before.stream.replies) :
    ReadKeeps before (.ready (.error error)) (middle.emitClose (closeFor error)) := by
  refine ⟨replies ▸ List.suffix_rfl, fun _ => nofun, ?_⟩
  intro unclosed cause same _ _
  simp only [Poll.ready.injEq, Except.error.injEq] at same
  subst same
  refine ⟨rfl, ?_⟩
  have none : middle.closes = [] := by simpa [closes, queued] using unclosed reading
  rw [closes_emitClose _ rfl, none]
  rfl

private theorem ReadOutcome.replies {before after : Streaming} {polled : Poll (Result Frame)}
    (outcome : ReadOutcome before polled after) :
    after.stream.replies = before.stream.replies := by
  cases outcome with
  | closed _ => rfl
  | pending _ takes => exact takes.replies
  | ended _ takes => exact takes.replies
  | failed _ takes _ => exact takes.replies
  | received _ takes => exact takes.replies

private theorem ReadOutcome.unclosed {before after : Streaming} {polled : Poll (Result Frame)}
    (outcome : ReadOutcome before polled after) (unclosed : before.OpenUnclosed) :
    after.OpenUnclosed := by
  cases outcome with
  | closed _ => exact unclosed
  | pending _ _ => exact unclosed
  | ended _ _ => exact nofun
  | failed _ _ _ => exact unclosed
  | received reading _ => exact fun _ => unclosed reading

/-- An accepted frame queues a Close only if it is one, which stops the reader. -/
theorem OpenUnclosed.accepted {before after : Streaming} {frame received : Frame}
    {maxReadBuffer : Nat} (unclosed : before.OpenUnclosed)
    (taken : before.onFrame frame maxReadBuffer = (.ok received, after)) : after.OpenUnclosed := by
  have outcome := before.onFrame_outcome frame maxReadBuffer
  rw [taken] at outcome
  cases outcome with
  | ping _ =>
    intro reading
    have same := before.closes_oblige (.pong frame.payload)
    rw [if_neg (by simp [Frame.pong, Frame.new]), List.append_nil] at same
    exact same.trans (unclosed reading)
  | pong _ => exact unclosed
  | close _ _ => exact nofun
  | data _ _ => exact unclosed

private theorem pollNextFrameWithLimit_keeps (self : Streaming) (maxReadBuffer : Nat) :
    ReadKeeps self (self.pollNextFrameWithLimit maxReadBuffer).1
      (self.pollNextFrameWithLimit maxReadBuffer).2 := by
  have reader := self.pollReader_outcome
  unfold pollNextFrameWithLimit
  generalize self.pollReader = result at reader
  obtain ⟨polled, middle⟩ := result
  have outcome := middle.onPolled_outcome polled maxReadBuffer
  dsimp only at reader ⊢
  generalize middle.onPolled polled maxReadBuffer = result at outcome ⊢
  cases outcome with
  | silent quiet =>
    exact ReadKeeps.of_flushes reader.replies reader.unclosed (middle.silent_flushes quiet).1
  | failed cause =>
    cases reader with
    | closed _ => exact absurd rfl cause
    | ended _ _ => exact absurd rfl cause
    | failed reading takes _ => exact .of_error reading rfl takes.replies
  | refused taken _ =>
    have same := onFrame_stream taken
    have queued := onFrame_refused_queued taken
    cases reader with
    | received reading takes => exact .of_error reading queued (same ▸ takes.replies)
  | accepted taken =>
    have same : _ = middle.stream := onFrame_stream taken
    refine ⟨?_, fun unclosed => .accepted (reader.unclosed unclosed) taken, nofun⟩
    simp only [same, reader.replies, List.suffix_rfl]

end Streaming

namespace WebSocket

/-- A text message passes the check, if there is one. -/
def Valid (self : WebSocket) (opcode : OpCode) (payload : Bytes) : Prop :=
  opcode = .text → self.checkUtf8 → fromUtf8 payload

/-- The frame goes on with what has been assembled: a message starts only where
none is open and is continued only where one is, in time, and a finished text
is valid. -/
def Fits (self : WebSocket) (frame : Frame) : Prop :=
  match frame.opcode with
  | .text | .binary =>
    self.fragmentLayer.incomingFragment = none ∧ (frame.fin → self.Valid frame.opcode frame.payload)
  | .continuation =>
    ∃ fragment, self.fragmentLayer.incomingFragment = some fragment ∧
      (∀ timeout, self.fragmentLayer.fragmentTimeout = some timeout →
        self.streaming.stream.clock - fragment.started ≤ timeout) ∧
      (frame.fin →
        self.Valid fragment.opcode (self.fragmentLayer.incomingBuffer ++ frame.payload))
  | _ => True

/-- Every frame the read loop gets fits. -/
def FitsRead : Nat → WebSocket → Prop
  | 0, _ => True
  | fuel + 1, self =>
    match self.pollStreaming with
    | (.ready (.ok frame), later) =>
      later.Fits frame ∧
        match later.onFrame frame with
        | (.ok none, later) => later.FitsRead fuel
        | _ => True
    | _ => True

/-- Only reads have to meet a condition. -/
def FittingCall (self : WebSocket) : Call → Prop
  | .pollNextFrame => self.FitsRead (self.streaming.stream.incoming.length + 1)
  | _ => True

/-- A message that was assembled is delivered if it is valid. -/
theorem onFrame_delivers {self : WebSocket} {frame whole : Frame} {fragmentLayer : FragmentLayer}
    (assembled : self.fragmentLayer.assembleIncoming frame self.streaming.stream.clock =
      (.ok (some whole), fragmentLayer)) (valid : self.Valid whole.opcode whole.payload) :
    self.onFrame frame = (.ok (some whole), { self with fragmentLayer }) := by
  simp only [onFrame, assembled]
  rw [if_neg]
  rintro ⟨text, check, invalid⟩
  exact invalid (valid text check)

theorem onFrame_waits {self : WebSocket} {frame : Frame} {fragmentLayer : FragmentLayer}
    (assembled : self.fragmentLayer.assembleIncoming frame self.streaming.stream.clock =
      (.ok none, fragmentLayer)) :
    self.onFrame frame = (.ok none, { self with fragmentLayer }) := by
  simp only [onFrame, assembled]

/-- A frame that fits is not refused. The limit on reassembled messages was
already applied by the layer below. -/
theorem Fits.onFrame {self : WebSocket} {frame : Frame} (fits : self.Fits frame)
    (room : frame.opcode = .continuation →
      frame.payload.length < self.fragmentLayer.remainingReadCapacity)
    (error : WebSocketError) : (self.onFrame frame).1 ≠ .error error := by
  have control (control : frame.opcode.isControl) (other : frame.opcode ≠ .text) :
      (self.onFrame frame).1 ≠ .error error := by
    rw [onFrame_delivers (FragmentLayer.assembleIncoming_control control)
      (fun text => absurd text other)]
    simp
  have first (data : frame.opcode = .text ∨ frame.opcode = .binary)
      (closed : self.fragmentLayer.incomingFragment = none)
      (valid : frame.fin → self.Valid frame.opcode frame.payload) :
      (self.onFrame frame).1 ≠ .error error := by
    cases fin : frame.fin with
    | true =>
      rw [onFrame_delivers (FragmentLayer.assembleIncoming_whole data closed fin) (valid fin)]
      simp
    | false =>
      rw [onFrame_waits (FragmentLayer.assembleIncoming_first data closed fin)]
      simp
  unfold Fits at fits
  cases opcode : frame.opcode with
  | ping => exact control (by simp [opcode, OpCode.isControl]) (by simp [opcode])
  | pong => exact control (by simp [opcode, OpCode.isControl]) (by simp [opcode])
  | close => exact control (by simp [opcode, OpCode.isControl]) (by simp [opcode])
  | text =>
    simp only [opcode] at fits
    exact first (.inl opcode) fits.1 (by simpa [opcode] using fits.2)
  | binary =>
    simp only [opcode] at fits
    exact first (.inr opcode) fits.1 (by simpa [opcode] using fits.2)
  | continuation =>
    simp only [opcode] at fits
    obtain ⟨fragment, opened, timely, valid⟩ := fits
    have assembled := FragmentLayer.assembleIncoming_next opcode opened timely (room opcode)
    cases fin : frame.fin with
    | true =>
      rw [if_pos fin] at assembled
      rw [onFrame_delivers assembled (valid fin)]
      simp
    | false =>
      rw [if_neg (by simp [fin])] at assembled
      rw [onFrame_waits assembled]
      simp

/-- Rounds of the loop: a frame that was taken in, then the rest. -/
theorem readKeeps_trans {first second third : Streaming} {frame : Frame}
    {answer : Poll (Result Frame)} (left : Streaming.ReadKeeps first (.ready (.ok frame)) second)
    (right : Streaming.ReadKeeps second answer third) : Streaming.ReadKeeps first answer third where
  replies := right.replies.trans left.replies
  unclosed := fun unclosed => right.unclosed (left.unclosed unclosed)
  shut := fun unclosed error failed cause unreported =>
    right.shut (left.unclosed unclosed) error failed cause fun reported =>
      unreported (left.replies.subset reported)

theorem readLoop_keeps (fuel : Nat) {self : WebSocket} (fits : self.FitsRead fuel) :
    Streaming.ReadKeeps self.streaming (self.readLoop fuel).1 (self.readLoop fuel).2.streaming := by
  induction fuel generalizing self with
  | zero => exact ⟨List.suffix_rfl, id, by simp [readLoop]⟩
  | succ fuel ih =>
    have keeps : Streaming.ReadKeeps self.streaming self.pollStreaming.1
        self.pollStreaming.2.streaming := self.streaming.pollNextFrameWithLimit_keeps _
    unfold FitsRead at fits
    unfold readLoop
    rcases polled : self.pollStreaming with ⟨(_ | frame) | _, after⟩
    · simpa [polled] using keeps
    · simp only [polled] at keeps fits
      obtain ⟨fits, later⟩ := fits
      have room (fragment : frame.opcode = .continuation) :
          frame.payload.length < after.fragmentLayer.remainingReadCapacity := by
        simp only [pollStreaming, Prod.mk.injEq] at polled
        obtain ⟨answer, rfl⟩ := polled
        exact Streaming.pollNextFrameWithLimit_fragment (Prod.ext answer rfl) fragment
      have same := after.onFrame_streaming frame
      rcases taken : after.onFrame frame with ⟨error | (_ | _), final⟩
      · exact absurd (by rw [taken]) (fits.onFrame room error)
      · simp only [taken] at later same
        simp only [Poll.andThen_ok, taken]
        exact readKeeps_trans (same ▸ keeps) (ih later)
      · simp only [taken] at same
        simp only [Poll.andThen_ok, taken, same]
        exact ⟨keeps.replies, keeps.unclosed, by simp⟩
    · simpa [polled] using keeps

/-- A closed reader delivers nothing: it reports the end of the connection,
unless it waits for what is owed or the sink fails. -/
theorem pollNextFrame_closed {self : WebSocket} (closed : self.streaming.readHalf.isClosed) :
    self.streaming.SameReader self.pollNextFrame.2.streaming ∧
      (self.pollNextFrame.1 = .ready (.error .connectionClosed) ∨
        self.pollNextFrame.1 = .pending ∧
          (self.streaming.obligatedSends ≠ [] ∨ self.streaming.flushSends) ∨
        ∃ failure, self.pollNextFrame.1 = .ready (.error failure) ∧
          .ready (.error failure) ∈ self.streaming.stream.replies) := by
  obtain ⟨flushes, nothing, waiting⟩ := Streaming.pollNextFrameWithLimit_closed closed
    self.fragmentLayer.remainingReadCapacity
  have same : self.streaming.SameReader self.pollStreaming.2.streaming := flushes.reader
  have answer : self.pollStreaming.1 = (self.streaming.pollNextFrameWithLimit
      self.fragmentLayer.remainingReadCapacity).1 := rfl
  unfold pollNextFrame readLoop
  rcases polled : self.pollStreaming with ⟨(error | frame) | _, after⟩
  · rw [polled] at same answer
    refine ⟨same, ?_⟩
    rcases flushes.cause error answer.symm with rfl | reported
    · exact .inl rfl
    · exact .inr (.inr ⟨error, rfl, reported⟩)
  · rw [polled] at answer
    exact absurd answer.symm (nothing frame)
  · rw [polled] at same answer
    exact ⟨same, .inr (.inl ⟨rfl, waiting answer.symm⟩)⟩

end WebSocket

/-- What holds of every run of fitting reads until an error is reported. -/
def BeforeError (replies : List Reply) (state : WebSocket) : Prop :=
  state.streaming.OpenUnclosed ∧ state.streaming.stream.replies <:+ replies

/-- What holds from then on. -/
def BehindError (replies : List Reply) (error : WebSocketError) (state : WebSocket) : Prop :=
  state.streaming.ShutBy error ∧ state.streaming.stream.replies <:+ replies

private theorem BeforeError.step {replies : List Reply} {state next : WebSocket} {call : Call}
    {answer : Answer} (fitting : state.FittingCall call)
    (taken : state.step call = some (answer, next)) (before : BeforeError replies state) :
    BeforeError replies next := by
  by_cases reading : call = .pollNextFrame
  · subst reading
    simp only [WebSocket.step, Option.some.injEq, Prod.mk.injEq] at taken
    have keeps := WebSocket.readLoop_keeps _ fitting
    exact taken.2 ▸ ⟨keeps.unclosed before.1, keeps.replies.trans before.2⟩
  · have same := (WebSocket.step_writes reading taken).reader
    exact ⟨.of_same same before.1, same.stream.replies.trans before.2⟩

private theorem BehindError.step {replies : List Reply} {error : WebSocketError}
    {state next : WebSocket}
    {call : Call} {answer : Answer} (taken : state.step call = some (answer, next))
    (behind : BehindError replies error state) : BehindError replies error next := by
  have same : state.streaming.SameReader next.streaming := by
    by_cases reading : call = .pollNextFrame
    · subst reading
      simp only [WebSocket.step, Option.some.injEq, Prod.mk.injEq] at taken
      exact taken.2 ▸ (WebSocket.pollNextFrame_closed behind.1.1).1
    · exact (WebSocket.step_writes reading taken).reader
  exact ⟨.of_same same behind.1, same.stream.replies.trans behind.2⟩

/-- The code of a Close is read back from its payload. -/
theorem Frame.closeCode_close (code : CloseCode) (reason : Bytes) :
    (Frame.close code reason).closeCode = some (.fromU16 code.toU16) := by
  have spelled := BigEndian.ofBytes_toBytes_of_lt
    (show code.toU16.toNat < 256 ^ 2 from code.toU16.toNat_lt)
  simp only [BigEndian.toBytes] at spelled
  simp only [Frame.close, Frame.closeRaw, Frame.new, Frame.closeCode, BigEndian.toBytes,
    List.cons_append, spelled, UInt16.ofNat_toNat]

theorem closeFor_closeCode (error : WebSocketError) :
    (Streaming.closeFor error).closeCode = some error.closeCode := by
  rw [Streaming.closeFor, Frame.closeCode_close]
  cases error <;> rfl

/-- A message fragment that continues nothing is reported, but the connection
reads on and tells the peer nothing. -/
theorem stray_fragment_not_fatal :
    ∃ final,
      Trace.Run WebSocket.step (fun _ _ => True)
        (.new .stored (.new [.at 0 (.continuation [1]), .at 0 (.text [104, 105])] [] 0) .plain)
        [(.pollNextFrame, .read (.ready (.error .invalidFragment))),
          (.pollNextFrame, .read (.ready (.ok (.text [104, 105]))))] final ∧
      final.streaming.closes = [] :=
  ⟨_, .of_exec [.pollNextFrame, .pollNextFrame] rfl, by decide⟩

/-- Once a read has reported an error of the received data, the Close that names
it is the only one queued, and every later read reports the end of the
connection, or waits for what is owed, or passes on an error of the sink. -/
theorem read_error_fatal (flate : Flate) (incoming : List Arrival) (replies : List Reply)
    (clock : Nat) (opts : Negotiation) {before after : List (Call × Answer)}
    {error : WebSocketError} {state : WebSocket}
    (run : Trace.Run WebSocket.step WebSocket.FittingCall
      (.new flate (.new incoming replies clock) opts)
      (before ++ (.pollNextFrame, .read (.ready (.error error))) :: after) state)
    (cause : error ≠ .connectionClosed) (unreported : .ready (.error error) ∉ replies) :
    state.streaming.closes = [Streaming.closeFor error] ∧
      (Streaming.closeFor error).closeCode = some error.closeCode ∧
      (state.pollNextFrame.1 = .ready (.error .connectionClosed) ∨
        state.pollNextFrame.1 = .pending ∧
          (state.streaming.obligatedSends ≠ [] ∨ state.streaming.flushSends) ∨
        ∃ failure, state.pollNextFrame.1 = .ready (.error failure) ∧
          .ready (.error failure) ∈ replies) := by
  obtain ⟨middle, first, second⟩ := run.split
  have fine : BeforeError replies middle :=
    first.keeps (fun fitting taken fine => fine.step fitting taken)
      ⟨fun _ => rfl, List.suffix_rfl⟩
  cases second with
  | cons fitting taken rest =>
    simp only [WebSocket.step, Option.some.injEq, Prod.mk.injEq, Answer.read.injEq] at taken
    obtain ⟨failed, rfl⟩ := taken
    have keeps := WebSocket.readLoop_keeps _ fitting
    have shut := keeps.shut fine.1 error failed cause fun reported =>
      unreported (fine.2.subset reported)
    have behind : BehindError replies error state :=
      rest.keeps (fun _ taken behind => behind.step taken) ⟨shut, keeps.replies.trans fine.2⟩
    refine ⟨behind.1.2, closeFor_closeCode error, ?_⟩
    rcases (WebSocket.pollNextFrame_closed behind.1.1).2 with closed | waiting | ⟨failure, same, reported⟩
    · exact .inl closed
    · exact .inr (.inl waiting)
    · exact .inr (.inr ⟨failure, same, behind.2.subset reported⟩)

/-- A malformed Close behind the first fragment of a message. -/
theorem read_error_fatal_close :
    ∃ state,
      Trace.Run WebSocket.step WebSocket.FittingCall
        (.new .stored
          (.new [.at 0 ((Frame.text [104]).withFin false), .at 0 (.closeRaw [3])] [] 0) .plain)
        ([] ++ (.pollNextFrame, .read (.ready (.error .invalidCloseFrame))) :: []) state ∧
      state.streaming.closes = [Streaming.closeFor .invalidCloseFrame] := by
  have run : ∃ state,
      Trace.Run WebSocket.step WebSocket.FittingCall
        (.new .stored
          (.new [.at 0 ((Frame.text [104]).withFin false), .at 0 (.closeRaw [3])] [] 0) .plain)
        ([] ++ (.pollNextFrame, .read (.ready (.error .invalidCloseFrame))) :: []) state :=
    ⟨_, .cons ⟨⟨rfl, nofun⟩, trivial⟩ rfl .nil⟩
  obtain ⟨state, run⟩ := run
  exact ⟨state, run, (read_error_fatal _ _ _ _ _ run (by decide) (by decide)).1⟩

end Yawc
