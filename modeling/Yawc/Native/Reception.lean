import Yawc.Native.Capacity

/-! A reference for what a receiver makes of frames that are not compressed, and
that the connection follows it over every run. -/

namespace Yawc

/-- Assembly as RFC 6455 has it. `opened` is what has arrived of the open
message. Control frames pass, a frame that does not fit the state is an invalid
fragment, and the last frame of a message delivers it. -/
def assemble (checkUtf8 : Bool) (opened : Option (OpCode × Bytes)) (frame : Frame) :
    Option (Result Frame) × Option (OpCode × Bytes) :=
  if frame.opcode.isControl then (some (.ok frame), opened)
  else if ¬ (frame.opcode = .continuation ↔ opened.isSome) then
    (some (.error .invalidFragment), opened)
  else
    let message := joined opened frame
    if frame.fin = false then (none, some message)
    else if message.1 = .text ∧ checkUtf8 ∧ ¬ fromUtf8 message.2 then
      (some (.error .invalidUTF8), none)
    else (some (.ok (.new true message.1 none message.2)), none)

/-- How much has arrived of the open message. -/
def buffered (opened : Option (Nat × OpCode × Bytes)) : Nat := (opened.map (·.2.2.length)).getD 0

namespace Limits

variable (limits : Limits) (opened : Option (Nat × OpCode × Bytes)) (frame : Frame)

/-- The payload reaches the limit on payloads, or the message of a fragment the
limit on the buffer. -/
def Exceeds : Prop :=
  limits.maxPayloadRead ≤ frame.payload.length ∨
    frame.isFragment ∧ limits.maxReadBuffer ≤ buffered opened + frame.payload.length

instance : Decidable (limits.Exceeds opened frame) := inferInstanceAs (Decidable (_ ∨ _))

/-- The fragment comes too late for the open message. -/
def Expired (now : Nat) : Prop :=
  frame.opcode = .continuation ∧
    ∃ started ∈ opened.map Prod.fst, ∃ timeout ∈ limits.fragmentTimeout,
      timeout < now - started

instance (now : Nat) : Decidable (limits.Expired opened frame now) :=
  inferInstanceAs (Decidable (_ ∧ _))

end Limits

/-- What a receiver has come to: the open message with the time its first frame
arrived, whether it has stopped reading, and its answers so far. -/
structure Reception where
  opened : Option (Nat × OpCode × Bytes)
  closed : Bool
  answers : List (Result Frame)

namespace Reception

def new : Reception := { opened := none, closed := false, answers := [] }

def answer (self : Reception) (result : Result Frame) : Reception :=
  { self with answers := self.answers ++ [result] }

/-- An error that ends the reading. -/
def refuse (self : Reception) (error : WebSocketError) : Reception :=
  { self.answer (.error error) with closed := true }

variable (limits : Limits)

/-- A data frame. A message that has expired is forgotten. -/
def onData (self : Reception) (frame : Frame) (now : Nat) : Reception :=
  if limits.Exceeds self.opened frame then self.refuse .frameTooLarge
  else if limits.Expired self.opened frame now then
    { self.answer (.error .fragmentTimeout) with opened := none }
  else
    let (result, opened) := assemble limits.checkUtf8 (self.opened.map Prod.snd) frame
    { self with
      opened := opened.map fun message => ((self.opened.map Prod.fst).getD now, message)
      answers := self.answers ++ result.toList }

/-- A frame that arrives. Nothing is read behind a Close, and one that is not
valid is refused. -/
def onFrame (self : Reception) (frame : Frame) (now : Nat) : Reception :=
  if frame.opcode = .close then
    match Streaming.checkClose frame with
    | .ok () => { self.answer (.ok frame) with closed := true }
    | .error error => self.refuse error
  else if frame.opcode.isControl then self.answer (.ok frame)
  else self.onData limits frame now

/-- What arrives. Failures of the transport end the reading without a word on
the peer's frames. -/
def receive (self : Reception) (arrival : Arrival) : Reception :=
  if self.closed then self
  else
    match arrival.item with
    | .pending => self
    | .ready none => { self with closed := true }
    | .ready (some (.error error)) =>
      if error.isIo then { self with closed := true } else self.refuse error
    | .ready (some (.ok frame)) => self.onFrame limits { frame with mask := none } arrival.time

end Reception

/-- The limits that were settled on. -/
def Negotiation.limits (self : Negotiation) : Limits where
  maxPayloadRead := self.maxPayloadRead.toNat
  maxReadBuffer := self.maxReadBuffer.toNat
  fragmentTimeout := self.fragmentation.bind (·.timeout)
  checkUtf8 := self.utf8

/-- What an answer says about the peer's frames. The end of the connection and
failures of the transport say nothing. -/
def Answer.verdict : Answer → Option (Result Frame)
  | .read (.ready (.ok frame)) => some (.ok frame)
  | .read (.ready (.error error)) =>
    if error = .connectionClosed ∨ error.isIo then none else some (.error error)
  | _ => none

/-- The connection is where the reference is. -/
structure Reception.Matches (limits : Limits) (reception : Reception) (ws : WebSocket) : Prop where
  same : ws.limits = limits
  plain : ∀ frame ∈ arriving ws.streaming.stream.incoming, frame.isCompressed = false
  byIo : ws.streaming.stream.FailsByIo
  bounded : ws.fragmentLayer.Bounded
  closed : ws.streaming.readHalf.isClosed = reception.closed
  uncompressed : reception.closed = false → ws.streaming.readHalf.compressedStream = false
  opened : reception.closed = false → ws.fragmentLayer.opened = reception.opened
  buffered : reception.closed = false → ws.fragmentLayer.Buffered

/-- What the layer's answer on a frame says. -/
def outcome : Result (Option Frame) → Option (Result Frame)
  | .ok none => none
  | .ok (some frame) => some (.ok frame)
  | .error error => some (.error error)

/-- The check of a text message. -/
def checkText (checkUtf8 : Bool) : Result (Option Frame) → Result (Option Frame)
  | .ok (some frame) =>
    if frame.opcode = .text ∧ checkUtf8 ∧ ¬ fromUtf8 frame.payload then .error .invalidUTF8
    else .ok (some frame)
  | other => other

private theorem Streaming.onFrame_uncompressed {self : Streaming} {frame : Frame}
    {maxReadBuffer : Nat}
    (data : frame.opcode.isControl = false) (plain : frame.isCompressed = false) :
    self.onFrame frame maxReadBuffer =
      (if self.maxOutputSize frame maxReadBuffer ≤ frame.payload.length then
        .error .frameTooLarge else .ok frame, self) := by
  have taken : self.onData frame maxReadBuffer =
      (if self.maxOutputSize frame maxReadBuffer ≤ frame.payload.length then
        .error .frameTooLarge else .ok frame, self) := by
    have inflated : self.inflateFrame frame (self.maxOutputSize frame maxReadBuffer) =
        (.ok frame, self) := by
      simp [inflateFrame, plain]
    simp only [onData, inflated]
    split <;> rfl
  cases opcode : frame.opcode <;> simp_all [onFrame, OpCode.isControl]

theorem WebSocket.onFrame_eq (ws : WebSocket) (frame : Frame) :
    ws.onFrame frame =
      (checkText ws.checkUtf8
        (ws.fragmentLayer.assembleIncoming frame ws.streaming.stream.clock).1,
        { ws with
          fragmentLayer :=
            (ws.fragmentLayer.assembleIncoming frame ws.streaming.stream.clock).2 }) := by
  simp only [onFrame]
  rcases ws.fragmentLayer.assembleIncoming frame ws.streaming.stream.clock with
    ⟨error | _ | whole, layer⟩
  · rfl
  · rfl
  · simp only [checkText]
    split <;> rfl

section Assemble

variable {checkUtf8 : Bool} {opened : Option (OpCode × Bytes)} {frame : Frame}

theorem assemble_stray (data : frame.opcode.isControl = false)
    (stray : ¬ (frame.opcode = .continuation ↔ opened.isSome)) :
    assemble checkUtf8 opened frame = (some (.error .invalidFragment), opened) := by
  simp only [assemble, data, stray]
  simp

theorem assemble_more (data : frame.opcode.isControl = false)
    (belongs : frame.opcode = .continuation ↔ opened.isSome) (fin : frame.fin = false) :
    assemble checkUtf8 opened frame = (none, some (joined opened frame)) := by
  simp [assemble, data, belongs, fin]

/-- The last frame of a message delivers it if its text is valid. -/
theorem assemble_last (data : frame.opcode.isControl = false)
    (belongs : frame.opcode = .continuation ↔ opened.isSome) (fin : frame.fin) :
    assemble checkUtf8 opened frame =
      (outcome (checkText checkUtf8 (.ok (some
        (.new true (joined opened frame).1 none (joined opened frame).2)))), none) := by
  have open_ : ¬ ¬ (frame.opcode = .continuation ↔ opened.isSome) := not_not.mpr belongs
  simp only [assemble, if_neg open_]
  rw [if_neg (by simp [data]), if_neg (by simp [fin])]
  by_cases invalid : (joined opened frame).1 = .text ∧ checkUtf8 ∧
      ¬ fromUtf8 (joined opened frame).2
  · have refused : checkText checkUtf8 (.ok (some (.new true (joined opened frame).1 none
        (joined opened frame).2))) = .error .invalidUTF8 := if_pos invalid
    rw [if_pos invalid, refused]
    rfl
  · have passed : checkText checkUtf8 (.ok (some (.new true (joined opened frame).1 none
        (joined opened frame).2))) = _ := if_neg invalid
    rw [if_neg invalid, passed]
    rfl

end Assemble

namespace Reception

variable {limits : Limits} {self : Reception} {frame : Frame} {now : Nat}

theorem onData_exceeds (exceeds : limits.Exceeds self.opened frame) :
    self.onData limits frame now = self.refuse .frameTooLarge := by
  simp [onData, exceeds]

theorem onData_expired (fits : ¬ limits.Exceeds self.opened frame)
    (expired : limits.Expired self.opened frame now) :
    self.onData limits frame now =
      { self.answer (.error .fragmentTimeout) with opened := none } := by
  simp [onData, fits, expired]

theorem onData_assemble (fits : ¬ limits.Exceeds self.opened frame)
    (timely : ¬ limits.Expired self.opened frame now) {result : Option (Result Frame)}
    {opened : Option (OpCode × Bytes)}
    (assembled : assemble limits.checkUtf8 (self.opened.map Prod.snd) frame = (result, opened)) :
    self.onData limits frame now =
      { self with
        opened := opened.map fun message => ((self.opened.map Prod.fst).getD now, message)
        answers := self.answers ++ result.toList } := by
  simp [onData, fits, timely, assembled]

/-- Putting the time back in front of the open message. -/
theorem opened_again (self : Reception) (now : Nat) :
    ((self.opened.map Prod.snd).map fun message =>
      ((self.opened.map Prod.fst).getD now, message)) = self.opened := by
  cases self.opened <;> rfl

end Reception

namespace FragmentLayer

variable {self : FragmentLayer}

theorem opened_none (closed : self.incomingFragment = none) : self.opened = none := by
  simp [opened, closed]

theorem opened_some {fragment : FragmentationState}
    (found : self.incomingFragment = some fragment) :
    self.opened = some (fragment.started, fragment.opcode, self.incomingBuffer) := by
  simp [opened, found]

private theorem opened_isSome : self.opened.isSome = self.incomingFragment.isSome := by
  simp [opened]

end FragmentLayer

namespace Reception

variable {limits : Limits} {r : Reception} {ws : WebSocket} {frame : Frame}

/-- Where the layer stands once it has answered. -/
structure Assembled (limits : Limits) (r : Reception) (frame : Frame) (now : Nat)
    (result : Result (Option Frame)) (layer : FragmentLayer) : Prop where
  reference : r.onData limits frame now =
    { r with opened := layer.opened, answers := r.answers ++ (outcome result).toList }
  buffered : layer.Buffered

/-- A data frame within the limits is assembled as the reference has it. -/
theorem assembles {layer : FragmentLayer} (now : Nat)
    (size : layer.maxReadBuffer = limits.maxReadBuffer)
    (timeout : layer.fragmentTimeout = limits.fragmentTimeout)
    (opened : layer.opened = r.opened) (buffered : layer.Buffered)
    (data : frame.opcode.isControl = false) (plain : frame.isCompressed = false)
    (unmasked : frame.mask = none) (fits : ¬ limits.Exceeds r.opened frame) :
    Assembled limits r frame now
      (checkText limits.checkUtf8 (layer.assembleIncoming frame now).1)
      (layer.assembleIncoming frame now).2 := by
  have outcome := layer.assembleIncoming_assembles frame now
  generalize layer.assembleIncoming frame now = assembled at outcome ⊢
  obtain ⟨result, after⟩ := assembled
  dsimp only at outcome ⊢
  have some_iff : (r.opened.map Prod.snd).isSome = layer.incomingFragment.isSome := by
    rw [← opened, Option.isSome_map, FragmentLayer.opened_isSome]
  cases outcome with
  | control control => simp [data] at control
  | stray _ stray =>
    rw [← some_iff] at stray
    refine ⟨?_, buffered⟩
    have timely : ¬ limits.Expired r.opened frame now := by
      rintro ⟨continuation, started, found, -⟩
      refine stray ⟨fun _ => ?_, fun _ => continuation⟩
      cases state : r.opened with
      | none => simp [state] at found
      | some message => rfl
    rw [onData_assemble fits timely (assemble_stray data stray), opened_again, opened]
    rfl
  | whole kind closed fin =>
    have none : r.opened = none := by rw [← opened, FragmentLayer.opened_none closed]
    have other : frame.opcode ≠ .continuation := by rcases kind with kind | kind <;> simp [kind]
    have belongs : frame.opcode = .continuation ↔ (r.opened.map Prod.snd).isSome := by
      simp [none, other]
    have message : Frame.new true frame.opcode .none frame.payload = frame := by
      simp [Frame.new, ← fin, ← plain, ← unmasked]
    refine ⟨?_, buffered⟩
    rw [onData_assemble fits (fun expired => other expired.1) (assemble_last data belongs fin)]
    simp [none, opened, joined, message]
  | first kind closed fin =>
    have none : r.opened = none := by rw [← opened, FragmentLayer.opened_none closed]
    have other : frame.opcode ≠ .continuation := by rcases kind with kind | kind <;> simp [kind]
    have belongs : frame.opcode = .continuation ↔ (r.opened.map Prod.snd).isSome := by
      simp [none, other]
    constructor
    · rw [onData_assemble fits (fun expired => other expired.1) (assemble_more data belongs fin)]
      simp [none, joined, FragmentLayer.opened, checkText, Yawc.outcome]
    · intro fragment found
      simp only [Option.some.injEq] at found
      subst found
      exact ⟨rfl, plain⟩
  | @next fragment _ _ kind found continued =>
    have state : r.opened = some (fragment.started, fragment.opcode, layer.incomingBuffer) := by
      rw [← opened, FragmentLayer.opened_some found]
    have belongs : frame.opcode = .continuation ↔ (r.opened.map Prod.snd).isSome := by
      simp [kind, state]
    obtain ⟨read, uncompressed⟩ := buffered fragment found
    have expired_iff : limits.Expired r.opened frame now ↔ layer.expired fragment now := by
      simp only [Limits.Expired, kind, state, FragmentLayer.expired, timeout]
      cases limits.fragmentTimeout <;> simp
    have continues := layer.continueMessage_continues fragment frame now
    rw [continued] at continues
    cases continues with
    | tooLarge large =>
      refine absurd (.inr ⟨by simp [Frame.isFragment, kind], ?_⟩) fits
      simp only [Yawc.buffered, state, Option.map_some, Option.getD_some]
      omega
    | late _ expired =>
      refine ⟨?_, by simp [FragmentLayer.Buffered]⟩
      rw [onData_expired fits (expired_iff.mpr expired)]
      simp [answer, FragmentLayer.opened, checkText, Yawc.outcome]
    | last _ timely fin =>
      have inTime : ¬ limits.Expired r.opened frame now := by simp [expired_iff, timely]
      refine ⟨?_, by simp [FragmentLayer.Buffered]⟩
      rw [onData_assemble fits inTime (assemble_last data belongs fin)]
      simp [state, joined, FragmentLayer.opened, Frame.new, fin, unmasked, uncompressed]
    | more _ timely fin =>
      have inTime : ¬ limits.Expired r.opened frame now := by simp [expired_iff, timely]
      constructor
      · rw [onData_assemble fits inTime (assemble_more data belongs fin)]
        simp [state, joined, FragmentLayer.opened, checkText, Yawc.outcome]
      · intro next same
        simp only [Option.some.injEq] at same
        subst same
        exact ⟨by simp [read], uncompressed⟩

/-- Pending arrivals change nothing. -/
theorem receive_skipped {skipped : List Arrival}
    (none : ∀ arrival ∈ skipped, arrival.item = .pending) (r : Reception) :
    skipped.foldl (receive limits) r = r := by
  induction skipped with
  | nil => rfl
  | cons arrival skipped ih =>
    have nothing : r.receive limits arrival = r := by
      simp [receive, none arrival (by simp)]
    rw [List.foldl_cons, nothing, ih fun other member => none other (by simp [member])]

/-- The limit of the layer below is that of the reference. -/
theorem Matches.exceeds_iff (matched : r.Matches limits ws) (reading : r.closed = false) (frame : Frame) :
    limits.Exceeds r.opened frame ↔
      ws.streaming.maxOutputSize frame ws.fragmentLayer.remainingReadCapacity ≤
        frame.payload.length := by
  obtain rfl := matched.same
  have opened := matched.opened reading
  have bounded := matched.bounded
  rw [Streaming.maxOutputSize_fragment]
  simp only [Limits.Exceeds, Yawc.buffered, ← opened, WebSocket.limits]
  cases state : ws.fragmentLayer.incomingFragment with
  | none =>
    rw [FragmentLayer.remainingReadCapacity_none state, FragmentLayer.opened_none state]
    cases frame.isFragment <;> simp
  | some fragment =>
    obtain ⟨size, small⟩ := bounded fragment state
    rw [FragmentLayer.remainingReadCapacity_opened state, FragmentLayer.opened_some state]
    cases frame.isFragment <;> simp [size]
    omega

theorem Matches.writes (matched : r.Matches limits ws) {after : WebSocket}
    (writes : WebSocket.OnlyWrites ws after) : r.Matches limits after := by
  have reader := writes.reader
  obtain ⟨waiting, layer⟩ := writes.layer
  refine ⟨writes.limits.trans matched.same, ?_, ?_, writes.bounded matched.bounded, ?_, ?_, ?_, ?_⟩
  · exact reader.stream.incoming ▸ matched.plain
  · exact fun error sink => matched.byIo error (reader.stream.replies.subset sink)
  · exact reader.readHalf ▸ matched.closed
  · exact reader.readHalf ▸ matched.uncompressed
  · rw [layer]
    exact matched.opened
  · rw [layer]
    exact matched.buffered

/-- What is read of the transport, and what the reference then is. -/
def Advances (limits : Limits) (r : Reception) (ws after : WebSocket)
    (said : Option (Result Frame)) : Prop :=
  ∃ consumed, ws.streaming.stream.incoming = consumed ++ after.streaming.stream.incoming ∧
    (consumed.foldl (receive limits) r).Matches limits after ∧
    (consumed.foldl (receive limits) r).answers = r.answers ++ said.toList

theorem Advances.trans {middle after : WebSocket} {r : Reception} {said : Option (Result Frame)}
    (first : r.Advances limits ws middle none)
    (second : ∀ {next : Reception}, next.Matches limits middle →
      next.Advances limits middle after said) : r.Advances limits ws after said := by
  obtain ⟨early, split, matched, silent⟩ := first
  obtain ⟨late, rest, final, answers⟩ := second matched
  refine ⟨early ++ late, by rw [split, rest, List.append_assoc], ?_, ?_⟩
  · rw [List.foldl_append]
    exact final
  · rw [List.foldl_append, answers, silent]
    simp

/-- Flushing says nothing. -/
theorem Matches.flushes (matched : r.Matches limits ws)
    {attempt : Poll (Result Frame) × Streaming} (flushes : Streaming.Flushes ws.streaming attempt)
    (nothing : ∀ frame, attempt.1 ≠ .ready (.ok frame)) :
    r.Advances limits ws { ws with streaming := attempt.2 } (Answer.read attempt.1).verdict := by
  have writes : WebSocket.OnlyWrites ws { ws with streaming := attempt.2 } :=
    .streaming flushes.reader
  refine ⟨[], by simp [flushes.reader.stream.incoming], matched.writes writes, ?_⟩
  have silent : (Answer.read attempt.1).verdict = none := by
    rcases answer : attempt.1 with (error | frame) | _
    · simp only [Answer.verdict, ite_eq_left_iff, reduceCtorEq, imp_false, not_not]
      exact (flushes.cause error answer).imp_right fun sink => matched.byIo error sink
    · exact absurd answer (nothing frame)
    · rfl
  simp [silent]

section Takes

variable {later : Framed}

theorem Matches.plain_later (matched : r.Matches limits ws)
    {item : Poll (Option (Result Frame))} (takes : ws.streaming.stream.Takes later item) :
    ∀ frame ∈ arriving later.incoming, frame.isCompressed = false := by
  intro frame member
  obtain ⟨arrival, found, same⟩ := List.mem_filterMap.mp member
  exact matched.plain frame (List.mem_filterMap.mpr ⟨arrival, takes.suffix.subset found, same⟩)

theorem Matches.byIo_later (matched : r.Matches limits ws)
    {item : Poll (Option (Result Frame))} (takes : ws.streaming.stream.Takes later item) :
    later.FailsByIo :=
  fun error sink => matched.byIo error (takes.replies ▸ sink)

theorem Matches.plain_raw (matched : r.Matches limits ws) {raw : Frame}
    (takes : ws.streaming.stream.Takes later (.ready (some (.ok raw)))) :
    raw.isCompressed = false := by
  obtain ⟨skipped, -, arrival, item, split, -⟩ := takes.taken
  refine matched.plain raw (List.mem_filterMap.mpr ⟨arrival, by simp [split], ?_⟩)
  simp [item]

/-- A read that passes over pending arrivals. -/
theorem Matches.pending (matched : r.Matches limits ws)
    (takes : ws.streaming.stream.Takes later .pending) :
    r.Advances limits ws { ws with streaming := { ws.streaming with stream := later } } none := by
  obtain ⟨skipped, none, split⟩ := takes.taken
  refine ⟨skipped, split, ?_, by rw [receive_skipped none]; simp⟩
  rw [receive_skipped none]
  exact ⟨matched.same, matched.plain_later takes, matched.byIo_later takes, matched.bounded,
    matched.closed, matched.uncompressed, matched.opened, matched.buffered⟩

/-- A read that takes an item up to which everything was pending. -/
theorem Matches.took (matched : r.Matches limits ws) {value : Option (Result Frame)}
    {streaming : Streaming} {layer : FragmentLayer} {said : Option (Result Frame)}
    (takes : ws.streaming.stream.Takes later (.ready value)) (stream : streaming.stream = later)
    (same : WebSocket.limits { ws with streaming, fragmentLayer := layer } = ws.limits)
    (bounded : layer.Bounded)
    (reference : ∀ arrival : Arrival, arrival.item = .ready value → arrival.time = later.clock →
      (r.receive limits arrival).closed = streaming.readHalf.isClosed ∧
      (r.receive limits arrival).answers = r.answers ++ said.toList ∧
      ((r.receive limits arrival).closed = false →
        streaming.readHalf.compressedStream = false ∧
        layer.opened = (r.receive limits arrival).opened ∧ layer.Buffered)) :
    r.Advances limits ws { ws with streaming, fragmentLayer := layer } said := by
  obtain ⟨skipped, none, arrival, item, split, clock⟩ := takes.taken
  obtain ⟨closed, answers, open_⟩ := reference arrival item clock.symm
  subst stream
  refine ⟨skipped ++ [arrival], by simp [split], ?_, ?_⟩
  · rw [List.foldl_append, receive_skipped none]
    exact ⟨same.trans matched.same, matched.plain_later takes, matched.byIo_later takes,
      bounded, closed.symm, fun reading => (open_ reading).1, fun reading => (open_ reading).2.1,
      fun reading => (open_ reading).2.2⟩
  · rw [List.foldl_append, receive_skipped none]
    exact answers

/-- The end of the stream. -/
theorem Matches.ended (matched : r.Matches limits ws) (reading : r.closed = false)
    (takes : ws.streaming.stream.Takes later (.ready none)) :
    r.Advances limits ws
      { ws with
        streaming := { ws.streaming with
          stream := later
          readHalf := { ws.streaming.readHalf with isClosed := true } } } none := by
  refine matched.took takes rfl rfl matched.bounded fun arrival item _ => ?_
  simp [receive, reading, item]

/-- A failure of the decoder or the transport. -/
theorem Matches.failed (matched : r.Matches limits ws) (reading : r.closed = false)
    {error : WebSocketError} (takes : ws.streaming.stream.Takes later (.ready (some (.error error))))
    (cause : error ≠ .connectionClosed) :
    r.Advances limits ws
      { ws with
        streaming :=
          { ws.streaming with stream := later }.emitClose (Streaming.closeFor error) }
      (Answer.read (.ready (.error error))).verdict := by
  refine matched.took takes rfl rfl matched.bounded fun arrival item _ => ?_
  cases io : error.isIo <;>
    simp [receive, reading, item, io, refuse, answer, Answer.verdict, cause, Streaming.emitClose]

end Takes

private theorem checkClose_isIo {frame : Frame} {error : WebSocketError}
    (invalid : Streaming.checkClose frame = .error error) : error.isIo = false := by
  rcases Streaming.checkClose_cases invalid with rfl | rfl | rfl
  · rfl
  · rfl
  · rfl

/-- A plain data frame reaches the limit or passes as it is. -/
theorem Matches.onData (matched : r.Matches limits ws) (reading : r.closed = false)
    {later : Framed} {raw : Frame}
    (takes : ws.streaming.stream.Takes later (.ready (some (.ok raw))))
    (data : raw.opcode.isControl = false) :
    Streaming.onFrame
      { ws.streaming with stream := later, readHalf := (ws.streaming.readHalf.receive raw).2 }
      (ws.streaming.readHalf.receive raw).1 ws.fragmentLayer.remainingReadCapacity =
      (if limits.Exceeds r.opened { raw with mask := none } then .error .frameTooLarge
        else .ok { raw with mask := none }, { ws.streaming with stream := later }) := by
  have plain := matched.plain_raw takes
  have uncompressed := matched.uncompressed reading
  have other : raw.opcode ≠ .close := fun close => by simp [close, OpCode.isControl] at data
  rw [ReadHalf.receive_half uncompressed other (.inr plain),
    ReadHalf.receive_frame uncompressed plain]
  rw [Streaming.onFrame_uncompressed (by exact data) (by exact plain)]
  simp only [matched.exceeds_iff reading]
  rfl

/-- What a data frame is to the reference. -/
theorem receive_data (reading : r.closed = false) {raw : Frame} {arrival : Arrival}
    (item : arrival.item = .ready (some (.ok raw))) (data : raw.opcode.isControl = false) :
    r.receive limits arrival = r.onData limits { raw with mask := none } arrival.time := by
  have other : raw.opcode ≠ .close := fun close => by simp [close, OpCode.isControl] at data
  simp [receive, reading, item, onFrame, other, data]

theorem receive_control (reading : r.closed = false) {raw : Frame} {arrival : Arrival}
    (item : arrival.item = .ready (some (.ok raw))) (control : raw.opcode.isControl)
    (other : raw.opcode ≠ .close) :
    r.receive limits arrival = r.answer (.ok { raw with mask := none }) := by
  simp [receive, reading, item, onFrame, other, control]

theorem receive_close (reading : r.closed = false) {raw : Frame} {arrival : Arrival}
    (item : arrival.item = .ready (some (.ok raw))) (close : raw.opcode = .close) :
    r.receive limits arrival =
      match Streaming.checkClose { raw with mask := none } with
      | .ok () => { r.answer (.ok { raw with mask := none }) with closed := true }
      | .error error => r.refuse error := by
  simp [receive, reading, item, onFrame, close]

/-- A frame the layer below refuses: a Close that is not valid, or a payload
that reaches the limit. -/
theorem Matches.refused (matched : r.Matches limits ws) (reading : r.closed = false)
    {later : Framed} {raw : Frame} {error : WebSocketError} {after : Streaming}
    (takes : ws.streaming.stream.Takes later (.ready (some (.ok raw))))
    (taken : Streaming.onFrame
      { ws.streaming with stream := later, readHalf := (ws.streaming.readHalf.receive raw).2 }
      (ws.streaming.readHalf.receive raw).1 ws.fragmentLayer.remainingReadCapacity =
      (.error error, after)) (cause : error ≠ .connectionClosed) :
    r.Advances limits ws { ws with streaming := after.emitClose (Streaming.closeFor error) }
      (Answer.read (.ready (.error error))).verdict := by
  have stream := Streaming.onFrame_stream taken
  have settings := Streaming.onFrame_settings taken
  have refusal {reason : WebSocketError} (same : error = reason) (io : reason.isIo = false)
      (reference : ∀ arrival : Arrival, arrival.item = .ready (some (.ok raw)) →
        r.receive limits arrival = r.refuse reason) :
      r.Advances limits ws { ws with streaming := after.emitClose (Streaming.closeFor error) }
        (Answer.read (.ready (.error error))).verdict := by
    refine matched.took takes (by exact stream)
      (by simp [WebSocket.limits, Streaming.emitClose, Streaming.oblige, settings]) matched.bounded
      fun arrival item _ => ?_
    subst same
    rw [reference arrival item]
    simp [refuse, answer, Streaming.emitClose, Answer.verdict, cause, io]
  by_cases data : raw.opcode.isControl = false
  · rw [matched.onData reading takes data, Prod.mk.injEq] at taken
    have exceeds : limits.Exceeds r.opened { raw with mask := none } := by
      by_contra fits
      simp [fits] at taken
    rw [if_pos exceeds, Except.error.injEq] at taken
    refine refusal taken.1.symm rfl fun arrival item => ?_
    rw [receive_data reading item data, onData_exceeds exceeds]
  · have outcome := Streaming.onFrame_outcome
      { ws.streaming with stream := later, readHalf := (ws.streaming.readHalf.receive raw).2 }
      (ws.streaming.readHalf.receive raw).1 ws.fragmentLayer.remainingReadCapacity
    rw [taken] at outcome
    cases outcome with
    | badClose close invalid =>
      have checked : Streaming.checkClose { raw with mask := none } = .error error := invalid
      refine refusal rfl (checkClose_isIo checked) fun arrival item => ?_
      rw [receive_close reading item close, checked]
    | data kind _ => exact absurd kind data

section Accepted

variable {later : Framed} {raw received : Frame} {streaming : Streaming}

/-- A data frame the layer below accepts is assembled. -/
theorem Matches.accepted_data (matched : r.Matches limits ws) (reading : r.closed = false)
    (takes : ws.streaming.stream.Takes later (.ready (some (.ok raw))))
    (taken : Streaming.onFrame
      { ws.streaming with stream := later, readHalf := (ws.streaming.readHalf.receive raw).2 }
      (ws.streaming.readHalf.receive raw).1 ws.fragmentLayer.remainingReadCapacity =
      (.ok received, streaming)) (data : raw.opcode.isControl = false) :
    r.Advances limits ws (WebSocket.onFrame { ws with streaming } received).2
      (outcome (WebSocket.onFrame { ws with streaming } received).1) := by
  have plain := matched.plain_raw takes
  have fitting := Streaming.onFrame_fitting taken (by exact data)
  rw [matched.onData reading takes data, Prod.mk.injEq] at taken
  have fits : ¬ limits.Exceeds r.opened { raw with mask := none } := by
    intro exceeds
    simp [exceeds] at taken
  rw [if_neg fits, Except.ok.injEq] at taken
  obtain ⟨rfl, rfl⟩ := taken
  have layer := assembles later.clock (congrArg Limits.maxReadBuffer matched.same)
    (congrArg Limits.fragmentTimeout matched.same) (matched.opened reading)
    (matched.buffered reading) (by exact data) (by exact plain) rfl fits
  have check : ws.checkUtf8 = limits.checkUtf8 := congrArg Limits.checkUtf8 matched.same
  have settings := WebSocket.onFrame_limits
    { ws with streaming := { ws.streaming with stream := later } } { raw with mask := none }
  have bounded := (matched.bounded.assembleIncoming (fun _ => fitting) later.clock).1
  rw [WebSocket.onFrame_eq] at settings ⊢
  refine matched.took takes rfl settings bounded fun arrival item clock => ?_
  rw [receive_data reading item data, clock, layer.reference, check]
  exact ⟨matched.closed.symm, rfl,
    fun _ => ⟨matched.uncompressed reading, rfl, layer.buffered⟩⟩

/-- A control frame passes assembly. -/
theorem onFrame_control (ws : WebSocket) {frame : Frame} (control : frame.opcode.isControl) :
    ws.onFrame frame = (.ok (some frame), ws) := by
  rw [WebSocket.onFrame_eq, FragmentLayer.assembleIncoming_control control]
  have text : frame.opcode ≠ .text := fun text => by simp [text, OpCode.isControl] at control
  simp [checkText, text]

/-- A control frame the layer below accepts is delivered, and a Close ends the
reading. -/
theorem Matches.accepted_control (matched : r.Matches limits ws) (reading : r.closed = false)
    (takes : ws.streaming.stream.Takes later (.ready (some (.ok raw))))
    (taken : Streaming.onFrame
      { ws.streaming with stream := later, readHalf := (ws.streaming.readHalf.receive raw).2 }
      (ws.streaming.readHalf.receive raw).1 ws.fragmentLayer.remainingReadCapacity =
      (.ok received, streaming)) (control : raw.opcode.isControl) :
    r.Advances limits ws (WebSocket.onFrame { ws with streaming } received).2
      (outcome (WebSocket.onFrame { ws with streaming } received).1) := by
  have uncompressed := matched.uncompressed reading
  have plain := matched.plain_raw takes
  have stream := Streaming.onFrame_stream taken
  have settings := Streaming.onFrame_settings taken
  have result := Streaming.onFrame_outcome
    { ws.streaming with stream := later, readHalf := (ws.streaming.readHalf.receive raw).2 }
    (ws.streaming.readHalf.receive raw).1 ws.fragmentLayer.remainingReadCapacity
  rw [taken, ReadHalf.receive_frame uncompressed plain] at result
  have delivered (frame : received = { raw with mask := none })
      (reference : ∀ arrival : Arrival, arrival.item = .ready (some (.ok raw)) →
        (r.receive limits arrival).closed = streaming.readHalf.isClosed ∧
        (r.receive limits arrival).answers = r.answers ++ [.ok { raw with mask := none }] ∧
        ((r.receive limits arrival).closed = false →
          streaming.readHalf.compressedStream = false ∧
          ws.fragmentLayer.opened = (r.receive limits arrival).opened ∧
          ws.fragmentLayer.Buffered)) :
      r.Advances limits ws (WebSocket.onFrame { ws with streaming } received).2
        (outcome (WebSocket.onFrame { ws with streaming } received).1) := by
    rw [onFrame_control _ (by rw [frame]; exact control), frame]
    exact matched.took takes stream (by simp [WebSocket.limits, settings]) matched.bounded
      fun arrival item _ => reference arrival item
  have passes (other : raw.opcode ≠ .close) (frame : received = { raw with mask := none })
      (readHalf : streaming.readHalf = (ws.streaming.readHalf.receive raw).2) :
      r.Advances limits ws (WebSocket.onFrame { ws with streaming } received).2
        (outcome (WebSocket.onFrame { ws with streaming } received).1) := by
    rw [ReadHalf.receive_half uncompressed other (.inl control)] at readHalf
    refine delivered frame fun arrival item => ?_
    rw [receive_control reading item control other, readHalf]
    exact ⟨matched.closed.symm, rfl,
      fun _ => ⟨uncompressed, matched.opened reading, matched.buffered reading⟩⟩
  cases result with
  | ping opcode => exact passes (by simp_all) rfl rfl
  | pong opcode => exact passes (by simp_all) rfl rfl
  | close opcode valid =>
    refine delivered rfl fun arrival item => ?_
    rw [receive_close reading item opcode, valid]
    simp [answer]
  | data data _ =>
    have kind : raw.opcode.isControl = false := data
    simp [kind] at control

end Accepted

/-- One round that brings a frame. -/
theorem Matches.round (matched : r.Matches limits ws) {middle after : WebSocket} {frame : Frame}
    {result : Result (Option Frame)} (polled : ws.pollStreaming = (.ready (.ok frame), middle))
    (assembled : middle.onFrame frame = (result, after)) :
    r.Advances limits ws after (outcome result) := by
  obtain ⟨streaming, rfl, read⟩ := WebSocket.pollStreaming_eq polled
  obtain ⟨raw, later, open_, takes, taken⟩ := Streaming.pollNextFrameWithLimit_ok read
  have reading : r.closed = false := matched.closed.symm.trans open_
  obtain ⟨rfl, rfl⟩ : (WebSocket.onFrame { ws with streaming } frame).1 = result ∧
      (WebSocket.onFrame { ws with streaming } frame).2 = after := by simp [assembled]
  cases kind : raw.opcode.isControl with
  | false => exact matched.accepted_data reading takes taken kind
  | true => exact matched.accepted_control reading takes taken kind

/-- One round that brings no frame. -/
theorem Matches.stop (matched : r.Matches limits ws) {after : WebSocket}
    {answer : Poll (Result Frame)} (polled : ws.pollStreaming = (answer, after))
    (nothing : ∀ frame, answer ≠ .ready (.ok frame)) :
    r.Advances limits ws after (Answer.read answer).verdict := by
  obtain ⟨streaming, rfl, read⟩ := WebSocket.pollStreaming_eq polled
  have step := ws.streaming.pollNextFrameWithLimit_step ws.fragmentLayer.remainingReadCapacity
  rw [read] at step
  generalize same : (answer, streaming) = result at step
  obtain ⟨rfl, rfl⟩ : result.1 = answer ∧ result.2 = streaming := by simp [← same]
  clear same
  cases step with
  | closed closed =>
    obtain ⟨flushes, quiet⟩ := ws.streaming.silent_flushes (.inr rfl)
    exact matched.flushes flushes quiet
  | @silent later open_ takes =>
    obtain ⟨flushes, quiet⟩ :=
      Streaming.silent_flushes { ws.streaming with stream := later } (.inl rfl)
    exact (matched.pending takes).trans fun next => next.flushes flushes quiet
  | @ended later open_ takes =>
    obtain ⟨flushes, quiet⟩ := Streaming.silent_flushes
      { ws.streaming with
        stream := later
        readHalf := { ws.streaming.readHalf with isClosed := true } } (.inr rfl)
    exact (matched.ended (matched.closed.symm.trans open_) takes).trans fun next =>
      next.flushes flushes quiet
  | failed open_ takes cause => exact matched.failed (matched.closed.symm.trans open_) takes cause
  | @accepted _ _ received _ _ _ _ => exact absurd rfl (nothing received)
  | refused open_ takes taken cause =>
    exact matched.refused (matched.closed.symm.trans open_) takes taken cause

/-- Assembly refuses frames for what they are. -/
theorem onFrame_refuses {middle after : WebSocket} {error : WebSocketError}
    (refused : middle.onFrame frame = (.error error, after)) :
    error ≠ .connectionClosed ∧ error.isIo = false := by
  rcases WebSocket.onFrame_result refused with same | invalid
  · have outcome := middle.fragmentLayer.assembleIncoming_assembles frame
      middle.streaming.stream.clock
    rw [same] at outcome
    generalize (middle.fragmentLayer.assembleIncoming frame middle.streaming.stream.clock).2 = layer
      at outcome
    cases outcome with
    | stray _ _ => simp [WebSocketError.isIo]
    | @next fragment _ _ _ _ continued =>
      have continues := middle.fragmentLayer.continueMessage_continues fragment frame
        middle.streaming.stream.clock
      rw [continued] at continues
      cases continues <;> simp [WebSocketError.isIo]
  · simp only [Except.error.injEq] at invalid
    subst invalid
    simp [WebSocketError.isIo]

/-- A whole read. -/
theorem Matches.rounds (matched : r.Matches limits ws)
    {result : Poll (Result Frame) × WebSocket} (rounds : WebSocket.Rounds ws result) :
    r.Advances limits ws result.2 (Answer.read result.1).verdict := by
  induction rounds generalizing r with
  | stop polled nothing => exact matched.stop polled nothing
  | refuse polled taken =>
    obtain ⟨cause, io⟩ := onFrame_refuses taken
    simpa [outcome, Answer.verdict, cause, io] using matched.round polled taken
  | deliver polled taken => exact matched.round polled taken
  | again polled taken _ ih => exact (matched.round polled taken).trans ih

/-- Whatever is called, the connection stays where the reference is. -/
theorem Matches.step (matched : r.Matches limits ws) {call : Call} {answer : Answer}
    {after : WebSocket} (taken : ws.step call = some (answer, after)) :
    r.Advances limits ws after answer.verdict := by
  by_cases reading : call = .pollNextFrame
  · subst reading
    simp only [WebSocket.step, Option.some.injEq, Prod.mk.injEq] at taken
    obtain ⟨rfl, rfl⟩ := taken
    exact matched.rounds ws.pollNextFrame_rounds
  · have writes := WebSocket.step_writes reading taken
    refine ⟨[], by simp [writes.reader.stream.incoming], matched.writes writes, ?_⟩
    have silent : answer.verdict = none := by
      rcases WebSocket.step_answer reading taken with ⟨reply, rfl⟩ | ⟨result, rfl⟩
      · rfl
      · rfl
    simp [silent]

/-- Over a run, the answers are those of the reference to what was read. -/
theorem Matches.run {trace : List (Call × Answer)} {final : WebSocket}
    (run : Trace.Run WebSocket.step (fun _ _ => True) ws trace final)
    (matched : r.Matches limits ws) :
    ∃ consumed, ws.streaming.stream.incoming = consumed ++ final.streaming.stream.incoming ∧
      (consumed.foldl (receive limits) r).Matches limits final ∧
      (consumed.foldl (receive limits) r).answers =
        r.answers ++ trace.filterMap (·.2.verdict) := by
  induction run generalizing r with
  | nil => exact ⟨[], rfl, matched, by simp⟩
  | @cons state call answer middle trace final _ taken _ ih =>
    obtain ⟨early, split, next, said⟩ := matched.step taken
    obtain ⟨late, rest, last, answers⟩ := ih next
    refine ⟨early ++ late, by rw [split, rest, List.append_assoc], ?_, ?_⟩
    · rw [List.foldl_append]
      exact last
    · rw [List.foldl_append, answers, said]
      cases shown : answer.verdict <;> simp [shown]

/-- Where a connection starts. -/
theorem Matches.new (flate : Flate) (opts : Negotiation) {incoming : List Arrival}
    {replies : List Reply} (clock : Nat)
    (plain : ∀ frame ∈ arriving incoming, frame.isCompressed = false)
    (byIo : ∀ error, .ready (.error error) ∈ replies → error.isIo) :
    Reception.new.Matches opts.limits
      (.new flate (.new incoming replies clock) opts) where
  same := rfl
  plain := plain
  byIo := byIo
  bounded := WebSocket.new_bounded flate _ opts
  closed := rfl
  uncompressed _ := rfl
  opened _ := rfl
  buffered _ := by simp [FragmentLayer.Buffered, WebSocket.new, FragmentLayer.new]

end Reception

end Yawc
