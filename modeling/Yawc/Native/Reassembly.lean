import Yawc.Native.Contexts
import Yawc.Native.ReadErrors

/-! The receiving side: frames that carry messages, in fragments and with
control frames in between, are put together to the messages again. -/

namespace Yawc

/-- A message so far, with a further frame of it. -/
def joined (opened : Option (OpCode × Bytes)) (frame : Frame) : OpCode × Bytes :=
  match opened with
  | none => (frame.opcode, frame.payload)
  | some (opcode, buffer) => (opcode, buffer ++ frame.payload)

/-- A frame that starts a message where none is open and continues one where it
is. -/
structure Belongs (opened : Option (OpCode × Bytes)) (frame : Frame) : Prop where
  data : frame.opcode.isControl = false
  plain : frame.isCompressed = false
  continues : frame.opcode = .continuation ↔ opened.isSome

/-- The frames carry the messages in order, and may be cut off anywhere. `opened`
is what came before of the first message. -/
inductive Carries : Option (OpCode × Bytes) → List Frame → List Frame → Prop where
  | done {opened : Option (OpCode × Bytes)} {messages : List Frame} : Carries opened messages []
  | control {opened : Option (OpCode × Bytes)} {messages rest : List Frame} {frame : Frame}
      (control : frame.opcode.isControl) (later : Carries opened messages rest) :
      Carries opened messages (frame :: rest)
  | last {opened : Option (OpCode × Bytes)} {messages rest : List Frame} {message frame : Frame}
      (part : Belongs opened frame) (fin : frame.fin)
      (complete : joined opened frame = (message.opcode, message.payload))
      (later : Carries none messages rest) : Carries opened (message :: messages) (frame :: rest)
  | more {opened : Option (OpCode × Bytes)} {messages rest : List Frame} {message frame : Frame}
      (part : Belongs opened frame) (fin : frame.fin = false)
      (opcode : (joined opened frame).1 = message.opcode)
      (payload : (joined opened frame).2 <+: message.payload)
      (later : Carries (some (joined opened frame)) (message :: messages) rest) :
      Carries opened (message :: messages) (frame :: rest)

/-- Each fragment arrives within the timeout of the first of its message, which
arrived at `started`. Nothing is read behind a Close. -/
def Timely (timeout : Nat) : Option Nat → List Arrival → Prop
  | _, [] => True
  | started, arrival :: rest =>
    match arrival.item with
    | .ready (some (.ok frame)) =>
      frame.opcode ≠ .close →
        if frame.opcode.isControl then Timely timeout started rest
        else
          let first := started.getD arrival.time
          arrival.time - first ≤ timeout ∧
            Timely timeout (if frame.fin then none else some first) rest
    | _ => Timely timeout started rest

/-- The messages that end before the first Close. -/
def finished (frames : List Frame) : Nat :=
  (frames.takeWhile (·.opcode ≠ .close)).countP fun frame => !frame.opcode.isControl && frame.fin

/-- What a connection lets through. -/
structure Limits where
  maxPayloadRead : Nat
  maxReadBuffer : Nat
  fragmentTimeout : Option Nat
  checkUtf8 : Bool

def WebSocket.limits (self : WebSocket) : Limits where
  maxPayloadRead := self.streaming.maxPayloadRead
  maxReadBuffer := self.fragmentLayer.maxReadBuffer
  fragmentTimeout := self.fragmentLayer.fragmentTimeout
  checkUtf8 := self.checkUtf8

/-- A message within the limits. -/
structure Limits.Allows (limits : Limits) (message : Frame) : Prop where
  data : message.opcode = .text ∨ message.opcode = .binary
  whole : message.fin
  plain : message.isCompressed = false
  small : message.payload.length < limits.maxReadBuffer
  valid : message.opcode = .text → limits.checkUtf8 → fromUtf8 message.payload

/-- The open message: when it started, and what has arrived of it. -/
def FragmentLayer.opened (self : FragmentLayer) : Option (Nat × OpCode × Bytes) :=
  self.incomingFragment.map fun fragment => (fragment.started, fragment.opcode, self.incomingBuffer)

/-- What is known of the open message besides. -/
def FragmentLayer.Buffered (self : FragmentLayer) : Prop :=
  ∀ fragment, self.incomingFragment = some fragment →
    fragment.bytesRead = self.incomingBuffer.length ∧ fragment.isCompressed = false

/-- An open connection that the messages are still to arrive at, the last frame
of `remaining` of them before a Close. -/
structure Awaits (limits : Limits) (messages : List Frame) (remaining bound : Nat)
    (ws : WebSocket) : Prop where
  reading : ws.streaming.readHalf.isClosed = false
  uncompressed : ws.streaming.readHalf.compressedStream = false
  same : ws.limits = limits
  allowed : ∀ message ∈ messages, limits.Allows message
  frames : OnlyFrames ws.streaming.stream.incoming
  carries : Carries (ws.fragmentLayer.opened.map Prod.snd) messages
    (arriving ws.streaming.stream.incoming)
  fits : ∀ frame ∈ arriving ws.streaming.stream.incoming,
    frame.payload.length < limits.maxPayloadRead
  timely : ∀ timeout, limits.fragmentTimeout = some timeout →
    Timely timeout (ws.fragmentLayer.opened.map Prod.fst) ws.streaming.stream.incoming
  buffered : ws.fragmentLayer.Buffered
  ends : finished (arriving ws.streaming.stream.incoming) = remaining
  within : ws.streaming.stream.incoming.length ≤ bound

/-- A frame that neither closes the reader nor is compressed leaves it as it is. -/
theorem ReadHalf.receive_half {self : ReadHalf} {raw : Frame}
    (uncompressed : self.compressedStream = false) (other : raw.opcode ≠ .close)
    (plain : raw.opcode.isControl ∨ raw.isCompressed = false) : (self.receive raw).2 = self := by
  obtain ⟨stream, closed⟩ := self
  simp only at uncompressed
  subst uncompressed
  rcases plain with control | plain
  · cases opcode : raw.opcode <;> simp_all [receive, OpCode.isControl]
  · simp [receive, other, plain]

theorem ReadHalf.receive_frame {self : ReadHalf} {raw : Frame}
    (uncompressed : self.compressedStream = false) (plain : raw.isCompressed = false) :
    (self.receive raw).1 = { raw with mask := none } := by
  simp [receive, uncompressed, plain]

/-- A frame that is not compressed passes if it is within the limit. -/
theorem Streaming.onFrame_plain {self : Streaming} {frame : Frame} {maxReadBuffer : Nat}
    (data : frame.opcode.isControl = false) (plain : frame.isCompressed = false)
    (fits : frame.payload.length < self.maxOutputSize frame maxReadBuffer) :
    self.onFrame frame maxReadBuffer = (.ok frame, self) := by
  have taken : self.onData frame maxReadBuffer = (.ok frame, self) := by
    simp [onData, inflateFrame, plain, fits]
  cases opcode : frame.opcode <;> simp_all [onFrame, OpCode.isControl]

private theorem Streaming.maxOutputSize_room {self : Streaming} {frame : Frame}
    {maxReadBuffer : Nat}
    (fits : frame.payload.length < self.maxPayloadRead)
    (room : frame.payload.length < maxReadBuffer) :
    frame.payload.length < self.maxOutputSize frame maxReadBuffer := by
  unfold maxOutputSize
  split
  · exact Nat.lt_min.mpr ⟨fits, room⟩
  · exact fits

private theorem Carries.control_tail {opened : Option (OpCode × Bytes)} {messages rest : List Frame}
    {frame : Frame} (carries : Carries opened messages (frame :: rest))
    (control : frame.opcode.isControl) : Carries opened messages rest := by
  cases carries with
  | control _ later => exact later
  | last belongs _ _ _ => simp [belongs.data] at control
  | more belongs _ _ _ _ => simp [belongs.data] at control

/-- Assembly leaves the limits as they are. -/
theorem WebSocket.limits_assembled {self : WebSocket} {frame : Frame} {now : Nat}
    {result : Result (Option Frame)} {layer : FragmentLayer} {stream : Framed}
    (assembled : self.fragmentLayer.assembleIncoming frame now = (result, layer)) :
    WebSocket.limits { self with
      streaming := { self.streaming with stream }, fragmentLayer := layer } = self.limits := by
  have settings := FragmentLayer.assembleIncoming_same self.fragmentLayer frame now
  simp only [assembled] at settings
  simp [limits, settings.2.2.1, settings.2.2.2]

section Timely

variable {timeout : Nat} {started : Option Nat}

theorem Timely.skip {skipped rest : List Arrival}
    (none : ∀ arrival ∈ skipped, arrival.item = .pending)
    (timely : Timely timeout started (skipped ++ rest)) : Timely timeout started rest := by
  induction skipped with
  | nil => exact timely
  | cons arrival skipped ih =>
    rw [List.cons_append, Timely, none arrival (by simp)] at timely
    exact ih (fun other member => none other (by simp [member])) timely

theorem Timely.pending {before after : Framed} (takes : before.Takes after .pending)
    (timely : Timely timeout started before.incoming) : Timely timeout started after.incoming := by
  obtain ⟨skipped, none, split⟩ := takes.taken
  rw [split] at timely
  exact timely.skip none

theorem Timely.control {before after : Framed} {frame : Frame}
    (takes : before.Takes after (.ready (some (.ok frame))))
    (timely : Timely timeout started before.incoming) (control : frame.opcode.isControl)
    (other : frame.opcode ≠ .close) : Timely timeout started after.incoming := by
  obtain ⟨skipped, none, arrival, item, split, -⟩ := takes.taken
  rw [split] at timely
  have next := timely.skip none
  rw [Timely, item] at next
  simpa [control] using next other

/-- The time of the frame is that of the connection once it took it. -/
theorem Timely.data {before after : Framed} {frame : Frame}
    (takes : before.Takes after (.ready (some (.ok frame))))
    (timely : Timely timeout started before.incoming) (data : frame.opcode.isControl = false) :
    after.clock - started.getD after.clock ≤ timeout ∧
      Timely timeout (if frame.fin then none else some (started.getD after.clock))
        after.incoming := by
  obtain ⟨skipped, none, arrival, item, split, clock⟩ := takes.taken
  rw [split] at timely
  have next := timely.skip none
  rw [Timely, item] at next
  rw [clock]
  have other : frame.opcode ≠ .close := fun close => by simp [close, OpCode.isControl] at data
  simpa [data] using next other

end Timely

section Finished

variable {frame : Frame} {rest : List Frame}

theorem finished_close (close : frame.opcode = .close) : finished (frame :: rest) = 0 := by
  simp [finished, close]

theorem finished_control (control : frame.opcode.isControl) (other : frame.opcode ≠ .close) :
    finished (frame :: rest) = finished rest := by
  simp [finished, control, other]

theorem finished_data (data : frame.opcode.isControl = false) :
    finished (frame :: rest) = finished rest + if frame.fin then 1 else 0 := by
  have other : frame.opcode ≠ .close := fun close => by simp [close, OpCode.isControl] at data
  simp [finished, data, other, List.countP_cons]

end Finished

namespace FragmentLayer

variable {self : FragmentLayer} {frame : Frame} {now : Nat}

/-- A frame has room if the message so far has. -/
theorem room (buffered : self.Buffered)
    (small : (joined (self.opened.map Prod.snd) frame).2.length < self.maxReadBuffer) :
    frame.payload.length < self.remainingReadCapacity := by
  unfold remainingReadCapacity
  cases state : self.incomingFragment with
  | none => simpa [opened, state, joined] using small
  | some fragment =>
    simp only [opened, state, Option.map_some, joined, List.length_append] at small
    simp only [Option.map_some, Option.getD_some, (buffered fragment state).1]
    omega

/-- A frame that belongs to a message is joined to it. -/
theorem assembleIncoming_joins (buffered : self.Buffered)
    (belongs : Belongs (self.opened.map Prod.snd) frame)
    (small : (joined (self.opened.map Prod.snd) frame).2.length < self.maxReadBuffer)
    (timely : ∀ timeout, self.fragmentTimeout = some timeout →
      now - (self.opened.map Prod.fst).getD now ≤ timeout) :
    (frame.fin → ∃ whole layer, self.assembleIncoming frame now = (.ok (some whole), layer) ∧
      whole.content = (true, (joined (self.opened.map Prod.snd) frame).1, false,
        (joined (self.opened.map Prod.snd) frame).2) ∧ layer.incomingFragment = none) ∧
    (frame.fin = false → ∃ layer, self.assembleIncoming frame now = (.ok none, layer) ∧
      layer.opened = some ((self.opened.map Prod.fst).getD now,
        joined (self.opened.map Prod.snd) frame) ∧ layer.Buffered) := by
  have room := room buffered small
  cases state : self.incomingFragment with
  | none =>
    have kind : frame.opcode = .text ∨ frame.opcode = .binary := by
      have other : frame.opcode ≠ .continuation := fun continues => by
        simpa [opened, state] using belongs.continues.mp continues
      have data := belongs.data
      cases opcode : frame.opcode <;> simp_all [OpCode.isControl]
    constructor
    · intro fin
      refine ⟨frame, self, assembleIncoming_whole kind state fin, ?_, state⟩
      simp [Frame.content, opened, state, joined, fin, belongs.plain]
    · intro fin
      refine ⟨_, assembleIncoming_first kind state fin, ?_, ?_⟩
      · simp [opened, state, joined]
      · intro fragment found
        simp only [Option.some.injEq] at found
        subst found
        exact ⟨rfl, belongs.plain⟩
  | some fragment =>
    have kind : frame.opcode = .continuation := belongs.continues.mpr (by simp [opened, state])
    have inTime : ∀ timeout, self.fragmentTimeout = some timeout →
        now - fragment.started ≤ timeout := by
      simpa [opened, state] using timely
    have assembled := assembleIncoming_next kind state inTime room
    obtain ⟨read, plain⟩ := buffered fragment state
    constructor
    · intro fin
      rw [if_pos fin] at assembled
      refine ⟨_, _, assembled, ?_, rfl⟩
      simp [Frame.content, opened, state, joined, fin, plain]
    · intro fin
      rw [if_neg (by simp [fin])] at assembled
      refine ⟨_, assembled, ?_, ?_⟩
      · simp [opened, state, joined]
      · intro next found
        simp only [Option.some.injEq] at found
        subst found
        exact ⟨by simp [read], plain⟩

end FragmentLayer

namespace Awaits

variable {limits : Limits} {messages : List Frame} {remaining bound : Nat} {ws : WebSocket}

theorem mono {wider : Nat} (awaits : Awaits limits messages remaining bound ws)
    (le : bound ≤ wider) : Awaits limits messages remaining wider ws :=
  { awaits with within := Nat.le_trans awaits.within le }

/-- Sending does not disturb the receiver. -/
theorem writes (awaits : Awaits limits messages remaining bound ws) {next : WebSocket}
    (writes : WebSocket.OnlyWrites ws next) : Awaits limits messages remaining bound next := by
  obtain ⟨⟨readHalf, _, payload, _, _, ⟨incoming, _⟩⟩, ⟨waiting, layer⟩, check⟩ := writes
  obtain ⟨streaming, checkUtf8, fragmentLayer⟩ := next
  dsimp only at layer
  subst layer
  exact {
    reading := readHalf ▸ awaits.reading
    uncompressed := readHalf ▸ awaits.uncompressed
    same := by rw [← awaits.same]; simp_all [WebSocket.limits]
    allowed := awaits.allowed
    frames := incoming ▸ awaits.frames
    carries := incoming ▸ awaits.carries
    fits := incoming ▸ awaits.fits
    timely := incoming ▸ awaits.timely
    buffered := awaits.buffered
    ends := incoming ▸ awaits.ends
    within := incoming ▸ awaits.within }

private theorem pending (awaits : Awaits limits messages remaining bound ws) {later : Framed}
    (takes : ws.streaming.stream.Takes later .pending) :
    Awaits limits messages remaining (bound - 1)
      { ws with streaming := { ws.streaming with stream := later } } where
  reading := awaits.reading
  uncompressed := awaits.uncompressed
  same := awaits.same
  allowed := awaits.allowed
  frames := takes.onlyFrames awaits.frames
  carries := takes.arriving_pending ▸ awaits.carries
  fits := takes.arriving_pending ▸ awaits.fits
  timely := fun timeout set => (awaits.timely timeout set).pending takes
  buffered := awaits.buffered
  ends := takes.arriving_pending ▸ awaits.ends
  within := takes.within awaits.within

/-- A frame has been taken that left the reader as it is. -/
theorem took (awaits : Awaits limits messages remaining bound ws) {later : Framed} {raw : Frame}
    {streaming : Streaming} {layer : FragmentLayer} {others : List Frame}
    (takes : ws.streaming.stream.Takes later (.ready (some (.ok raw))))
    (stream : streaming.stream = later) (readHalf : streaming.readHalf = ws.streaming.readHalf)
    (same : WebSocket.limits { ws with streaming, fragmentLayer := layer } = ws.limits)
    (fewer : others ⊆ messages)
    (carries : Carries (layer.opened.map Prod.snd) others (arriving later.incoming))
    (timely : ∀ timeout, limits.fragmentTimeout = some timeout →
      Timely timeout (layer.opened.map Prod.fst) later.incoming)
    (buffered : layer.Buffered) :
    Awaits limits others (finished (arriving later.incoming)) (bound - 1)
      { ws with streaming, fragmentLayer := layer } := by
  obtain ⟨_, _, next⟩ := takes.arriving_ready awaits.frames
  subst stream
  constructor
  · exact readHalf ▸ awaits.reading
  · exact readHalf ▸ awaits.uncompressed
  · exact same.trans awaits.same
  · exact fun message member => awaits.allowed message (fewer member)
  · exact takes.onlyFrames awaits.frames
  · exact carries
  · intro frame member
    exact awaits.fits frame (by simp [next, member])
  · exact timely
  · exact buffered
  · rfl
  · exact takes.within awaits.within

/-- The frame that is taken is the next one. -/
theorem arrives (awaits : Awaits limits messages remaining bound ws) {later : Framed} {raw : Frame}
    (takes : ws.streaming.stream.Takes later (.ready (some (.ok raw)))) :
    Carries (ws.fragmentLayer.opened.map Prod.snd) messages (raw :: arriving later.incoming) ∧
      finished (raw :: arriving later.incoming) = remaining := by
  obtain ⟨_, same, next⟩ := takes.arriving_ready awaits.frames
  simp only [Option.some.injEq, Except.ok.injEq] at same
  subst same
  rw [← next]
  exact ⟨awaits.carries, awaits.ends⟩

/-- A control frame that is not a Close is passed over. -/
theorem control (awaits : Awaits limits messages remaining bound ws) {later : Framed}
    {raw received : Frame} {streaming : Streaming} {maxReadBuffer : Nat}
    (takes : ws.streaming.stream.Takes later (.ready (some (.ok raw))))
    (control : raw.opcode.isControl) (other : raw.opcode ≠ .close)
    (taken : Streaming.onFrame
      { ws.streaming with stream := later, readHalf := (ws.streaming.readHalf.receive raw).2 }
      (ws.streaming.readHalf.receive raw).1 maxReadBuffer = (.ok received, streaming)) :
    received.opcode.isControl ∧
      Awaits limits messages remaining (bound - 1) { ws with streaming } := by
  have half := ReadHalf.receive_half awaits.uncompressed other (.inl control)
  obtain ⟨carries, ends⟩ := awaits.arrives takes
  rw [← ends, finished_control control other]
  have outcome := Streaming.onFrame_outcome
    { ws.streaming with stream := later, readHalf := (ws.streaming.readHalf.receive raw).2 }
    (ws.streaming.readHalf.receive raw).1 maxReadBuffer
  rw [taken] at outcome
  have rest (stream : streaming.stream = later) (readHalf : streaming.readHalf = ws.streaming.readHalf)
      (limit : streaming.maxPayloadRead = ws.streaming.maxPayloadRead) :
      Awaits limits messages (finished (arriving later.incoming)) (bound - 1)
        { ws with streaming } :=
    awaits.took takes stream readHalf (by simp [WebSocket.limits, limit]) (List.Subset.refl _)
      (carries.control_tail control) (fun timeout set =>
        (awaits.timely timeout set).control takes control other) awaits.buffered
  cases outcome with
  | ping opcode => exact ⟨by simp [opcode, OpCode.isControl], rest rfl half rfl⟩
  | pong opcode => exact ⟨by simp [opcode, OpCode.isControl], rest rfl half rfl⟩
  | close opcode _ => exact absurd opcode other
  | data data _ =>
    have kind : raw.opcode.isControl = false := data
    simp [kind] at control

/-- Part of a message is within the limit. -/
theorem small {message raw : Frame}
    (awaits : Awaits limits (message :: messages) remaining bound ws)
    (payload : (joined (ws.fragmentLayer.opened.map Prod.snd) raw).2 <+: message.payload) :
    (joined (ws.fragmentLayer.opened.map Prod.snd) raw).2.length <
      ws.fragmentLayer.maxReadBuffer := by
  have limit : ws.fragmentLayer.maxReadBuffer = limits.maxReadBuffer := by rw [← awaits.same]; rfl
  rw [limit]
  exact Nat.lt_of_le_of_lt payload.length_le (awaits.allowed message (by simp)).small

/-- A frame of a message passes the layer below. -/
theorem passes (awaits : Awaits limits messages remaining bound ws) {later : Framed} {raw : Frame}
    (takes : ws.streaming.stream.Takes later (.ready (some (.ok raw))))
    (belongs : Belongs (ws.fragmentLayer.opened.map Prod.snd) raw)
    (small : (joined (ws.fragmentLayer.opened.map Prod.snd) raw).2.length <
      ws.fragmentLayer.maxReadBuffer) :
    Streaming.onFrame
      { ws.streaming with stream := later, readHalf := (ws.streaming.readHalf.receive raw).2 }
      (ws.streaming.readHalf.receive raw).1 ws.fragmentLayer.remainingReadCapacity =
      (.ok { raw with mask := none }, { ws.streaming with stream := later }) := by
  obtain ⟨_, same, next⟩ := takes.arriving_ready awaits.frames
  simp only [Option.some.injEq, Except.ok.injEq] at same
  subst same
  have other : raw.opcode ≠ .close := fun close => by
    simpa [close, OpCode.isControl] using belongs.data
  have fits : raw.payload.length < ws.streaming.maxPayloadRead := by
    have limit : ws.streaming.maxPayloadRead = limits.maxPayloadRead := by rw [← awaits.same]; rfl
    rw [limit]
    exact awaits.fits raw (by simp [next])
  rw [ReadHalf.receive_half awaits.uncompressed other (.inr belongs.plain),
    ReadHalf.receive_frame awaits.uncompressed belongs.plain]
  exact Streaming.onFrame_plain belongs.data belongs.plain
    (Streaming.maxOutputSize_room fits (FragmentLayer.room awaits.buffered small))

/-- A frame of a message is joined to what has arrived of it. -/
theorem joins (awaits : Awaits limits messages remaining bound ws) {later : Framed} {raw : Frame}
    (takes : ws.streaming.stream.Takes later (.ready (some (.ok raw))))
    (belongs : Belongs (ws.fragmentLayer.opened.map Prod.snd) raw)
    (small : (joined (ws.fragmentLayer.opened.map Prod.snd) raw).2.length <
      ws.fragmentLayer.maxReadBuffer) :
    (raw.fin → ∃ whole layer,
      ws.fragmentLayer.assembleIncoming { raw with mask := none } later.clock =
        (.ok (some whole), layer) ∧
      whole.content = (true, (joined (ws.fragmentLayer.opened.map Prod.snd) raw).1, false,
        (joined (ws.fragmentLayer.opened.map Prod.snd) raw).2) ∧ layer.incomingFragment = none) ∧
    (raw.fin = false → ∃ layer,
      ws.fragmentLayer.assembleIncoming { raw with mask := none } later.clock = (.ok none, layer) ∧
      layer.opened = some ((ws.fragmentLayer.opened.map Prod.fst).getD later.clock,
        joined (ws.fragmentLayer.opened.map Prod.snd) raw) ∧ layer.Buffered) := by
  have unmasked : Belongs (ws.fragmentLayer.opened.map Prod.snd) { raw with mask := none } :=
    ⟨belongs.data, belongs.plain, belongs.continues⟩
  refine FragmentLayer.assembleIncoming_joins awaits.buffered unmasked small fun timeout set => ?_
  have limit : limits.fragmentTimeout = some timeout := by rw [← awaits.same]; exact set
  exact ((awaits.timely timeout limit).data takes belongs.data).1

/-- The last frame of a message completes it. -/
theorem completes {message : Frame}
    (awaits : Awaits limits (message :: messages) remaining bound ws) {later : Framed} {raw : Frame}
    (takes : ws.streaming.stream.Takes later (.ready (some (.ok raw))))
    (belongs : Belongs (ws.fragmentLayer.opened.map Prod.snd) raw) (fin : raw.fin)
    (complete : joined (ws.fragmentLayer.opened.map Prod.snd) raw =
      (message.opcode, message.payload))
    (rest : Carries none messages (arriving later.incoming)) :
    ∃ whole after, WebSocket.onFrame { ws with streaming := { ws.streaming with stream := later } }
        { raw with mask := none } = (.ok (some whole), after) ∧
      whole.content = message.content ∧
      Awaits limits messages (finished (arriving later.incoming)) (bound - 1) after := by
  have allowed := awaits.allowed message (by simp)
  obtain rfl : limits = ws.limits := awaits.same.symm
  obtain ⟨whole, layer, assembled, content, closed⟩ :=
    (awaits.joins takes belongs (by rw [complete]; exact allowed.small)).1 fin
  have same : whole.content = message.content := by
    rw [content, complete]
    simp [Frame.content, allowed.whole, allowed.plain]
  have none : layer.opened = none := by simp [FragmentLayer.opened, closed]
  refine ⟨whole, _, WebSocket.onFrame_delivers assembled ?_, same, ?_⟩
  · intro text check
    have payload : whole.payload = message.payload := congrArg (·.2.2.2) same
    have opcode : whole.opcode = message.opcode := congrArg (·.2.1) same
    rw [payload]
    exact allowed.valid (opcode ▸ text) check
  · refine awaits.took takes rfl rfl (WebSocket.limits_assembled assembled) (by simp)
      (by simpa [none] using rest) ?_ ?_
    · intro timeout set
      simpa [none, fin] using ((awaits.timely timeout set).data takes belongs.data).2
    · intro fragment found
      simp [closed] at found

/-- Any other frame of a message is taken in. -/
theorem absorbs {message : Frame}
    (awaits : Awaits limits (message :: messages) remaining bound ws) {later : Framed} {raw : Frame}
    (takes : ws.streaming.stream.Takes later (.ready (some (.ok raw))))
    (belongs : Belongs (ws.fragmentLayer.opened.map Prod.snd) raw) (fin : raw.fin = false)
    (small : (joined (ws.fragmentLayer.opened.map Prod.snd) raw).2.length <
      ws.fragmentLayer.maxReadBuffer)
    (rest : Carries (some (joined (ws.fragmentLayer.opened.map Prod.snd) raw))
      (message :: messages) (arriving later.incoming)) :
    ∃ after, WebSocket.onFrame { ws with streaming := { ws.streaming with stream := later } }
        { raw with mask := none } = (.ok none, after) ∧
      Awaits limits (message :: messages) (finished (arriving later.incoming)) (bound - 1)
        after := by
  obtain ⟨layer, assembled, opened, buffered⟩ := (awaits.joins takes belongs small).2 fin
  refine ⟨_, WebSocket.onFrame_waits assembled, ?_⟩
  refine awaits.took takes rfl rfl (WebSocket.limits_assembled assembled) (List.Subset.refl _)
    (by simpa [opened] using rest) ?_ buffered
  intro timeout set
  simpa [opened, fin] using ((awaits.timely timeout set).data takes belongs.data).2

end Awaits

/-- What a read comes to: at most one message is delivered, and the others are
still awaited unless a Close arrived. -/
inductive Delivers (limits : Limits) (bound : Nat) :
    List Frame → Nat → Poll (Result Frame) × WebSocket → Prop where
  | nothing {messages : List Frame} {remaining : Nat} {result : Poll (Result Frame) × WebSocket}
      (control : ∀ frame, result.1 = .ready (.ok frame) → frame.opcode.isControl)
      (awaits : Awaits limits messages remaining bound result.2) :
      Delivers limits bound messages remaining result
  | message {messages : List Frame} {remaining : Nat} {message frame : Frame} {after : WebSocket}
      (same : frame.content = message.content)
      (awaits : Awaits limits messages remaining bound after) :
      Delivers limits bound (message :: messages) (remaining + 1) (.ready (.ok frame), after)
  | closed {messages : List Frame} {result : Poll (Result Frame) × WebSocket}
      (control : ∀ frame, result.1 = .ready (.ok frame) → frame.opcode.isControl)
      (closed : result.2.streaming.readHalf.isClosed) :
      Delivers limits bound messages 0 result

namespace Delivers

variable {limits : Limits} {messages : List Frame} {remaining bound : Nat} {ws : WebSocket}

theorem mono {wider : Nat} {result : Poll (Result Frame) × WebSocket}
    (delivers : Delivers limits bound messages remaining result) (le : bound ≤ wider) :
    Delivers limits wider messages remaining result := by
  cases delivers with
  | nothing control awaits => exact .nothing control (awaits.mono le)
  | message same awaits => exact .message same (awaits.mono le)
  | closed control closed => exact .closed control closed

/-- A Close stops the reader, whether or not it is accepted. -/
theorem close_stops {r after : Streaming} {raw : Frame} {maxReadBuffer : Nat}
    {result : Result Frame} {later : Framed} (close : raw.opcode = .close)
    (taken : Streaming.onFrame { r with stream := later, readHalf := (r.readHalf.receive raw).2 }
      (r.readHalf.receive raw).1 maxReadBuffer = (result, after)) : after.readHalf.isClosed :=
  (Streaming.onFrame_readHalf taken).2.2 (by simp [ReadHalf.receive, close])

/-- A frame that the layer below accepts. -/
theorem accepted {next : WebSocket → Poll (Result Frame) × WebSocket} {later : Framed}
    {raw received : Frame} {after : Streaming}
    (awaits : Awaits limits messages remaining bound ws)
    (further : ∀ {after}, Awaits limits messages remaining (bound - 1) after →
      Delivers limits (bound - 1) messages remaining (next after))
    (takes : ws.streaming.stream.Takes later (.ready (some (.ok raw))))
    (taken : Streaming.onFrame
      { ws.streaming with stream := later, readHalf := (ws.streaming.readHalf.receive raw).2 }
      (ws.streaming.readHalf.receive raw).1 ws.fragmentLayer.remainingReadCapacity =
      (.ok received, after)) :
    Delivers limits (bound - 1) messages remaining
      (match WebSocket.onFrame { ws with streaming := after } received with
      | (.error error, self) => (.ready (.error error), self)
      | (.ok (some frame), self) => (.ready (.ok frame), self)
      | (.ok none, self) => next self) := by
  obtain ⟨carries, ends⟩ := awaits.arrives takes
  cases carries with
  | control control _ =>
    have kind : received.opcode.isControl := by
      rw [(Streaming.onFrame_received taken).1]
      exact control
    have text : received.opcode ≠ .text := fun text => by simp [text, OpCode.isControl] at kind
    rw [WebSocket.onFrame_delivers (FragmentLayer.assembleIncoming_control kind)
      fun found => absurd found text]
    by_cases close : raw.opcode = .close
    · rw [finished_close close] at ends
      subst ends
      exact .closed (by simpa using kind) (close_stops close taken)
    · exact .nothing (by simpa using kind) (awaits.control takes control close taken).2
  | last belongs fin complete rest =>
    rw [awaits.passes takes belongs (awaits.small (by simp [complete]))] at taken
    simp only [Prod.mk.injEq, Except.ok.injEq] at taken
    obtain ⟨rfl, rfl⟩ := taken
    obtain ⟨whole, final, assembled, content, later⟩ :=
      awaits.completes takes belongs fin complete rest
    rw [assembled, ← ends, finished_data belongs.data, if_pos fin]
    exact .message content later
  | more belongs fin _ payload rest =>
    have small := awaits.small payload
    rw [awaits.passes takes belongs small] at taken
    simp only [Prod.mk.injEq, Except.ok.injEq] at taken
    obtain ⟨rfl, rfl⟩ := taken
    obtain ⟨final, assembled, later⟩ := awaits.absorbs takes belongs fin small rest
    rw [assembled]
    refine further ?_
    rw [← ends, finished_data belongs.data]
    simpa [fin] using later

/-- The layer below only refuses a Close. -/
theorem refused {later : Framed} {raw : Frame} {error : WebSocketError} {after : Streaming}
    (awaits : Awaits limits messages remaining bound ws)
    (takes : ws.streaming.stream.Takes later (.ready (some (.ok raw))))
    (taken : Streaming.onFrame
      { ws.streaming with stream := later, readHalf := (ws.streaming.readHalf.receive raw).2 }
      (ws.streaming.readHalf.receive raw).1 ws.fragmentLayer.remainingReadCapacity =
      (.error error, after)) : raw.opcode = .close := by
  obtain ⟨carries, -⟩ := awaits.arrives takes
  cases carries with
  | control control _ =>
    have outcome := Streaming.onFrame_outcome
      { ws.streaming with stream := later, readHalf := (ws.streaming.readHalf.receive raw).2 }
      (ws.streaming.readHalf.receive raw).1 ws.fragmentLayer.remainingReadCapacity
    rw [taken] at outcome
    cases outcome with
    | badClose opcode _ => exact opcode
    | data data _ =>
      have kind : raw.opcode.isControl = false := data
      simp [kind] at control
  | last belongs _ complete _ =>
    rw [awaits.passes takes belongs (awaits.small (by simp [complete]))] at taken
    simp at taken
  | more belongs _ _ payload _ =>
    rw [awaits.passes takes belongs (awaits.small payload)] at taken
    simp at taken

/-- One round of the loop. -/
theorem round {next : WebSocket → Poll (Result Frame) × WebSocket}
    (awaits : Awaits limits messages remaining bound ws)
    (further : ∀ {after}, Awaits limits messages remaining (bound - 1) after →
      Delivers limits (bound - 1) messages remaining (next after)) :
    Delivers limits (bound - 1) messages remaining
      (Poll.andThen ws.pollStreaming fun frame self =>
        match self.onFrame frame with
        | (.error error, self) => (.ready (.error error), self)
        | (.ok (some frame), self) => (.ready (.ok frame), self)
        | (.ok none, self) => next self) := by
  have outcome := Streaming.pollNextFrameWithLimit_open awaits.reading awaits.frames
    ws.fragmentLayer.remainingReadCapacity
  unfold WebSocket.pollStreaming
  generalize ws.streaming.pollNextFrameWithLimit ws.fragmentLayer.remainingReadCapacity = result
    at outcome ⊢
  cases outcome with
  | silent takes flushes nothing =>
    have quiet := (awaits.pending takes).writes (.streaming flushes.reader)
    obtain ⟨answer, after⟩ := result
    match answer, nothing with
    | .pending, _ => exact .nothing nofun quiet
    | .ready (.error _), _ => exact .nothing nofun quiet
    | .ready (.ok frame), nothing => exact absurd rfl (nothing frame)
  | accepted takes taken => exact accepted awaits further takes taken
  | refused takes taken =>
    have close := refused awaits takes taken
    obtain ⟨-, ends⟩ := awaits.arrives takes
    rw [finished_close close] at ends
    subst ends
    exact .closed nofun rfl

/-- A read of an open connection takes at least one arrival up. -/
theorem readLoop (fuel : Nat) (awaits : Awaits limits messages remaining bound ws) :
    Delivers limits (bound - 1) messages remaining (ws.readLoop (fuel + 1)) := by
  induction fuel generalizing messages remaining bound ws with
  | zero =>
    rw [WebSocket.readLoop]
    exact round awaits fun later => .nothing (by simp [WebSocket.readLoop]) later
  | succ fuel ih =>
    rw [WebSocket.readLoop]
    exact round awaits fun later => (ih later).mono (Nat.sub_le ..)

end Delivers

/-- The data frames among others. -/
def dataFrames (frames : List Frame) : List Frame := frames.filter (!·.opcode.isControl)

/-- A receiver that has delivered the first messages and awaits the others, as
far as they end before a Close. -/
def Receives (limits : Limits) (messages : List Frame) (expected bound : Nat)
    (delivered : List Frame) (ws : WebSocket) : Prop :=
  ∃ done later, messages = done ++ later ∧
    (dataFrames delivered).map Frame.content = done.map Frame.content ∧
    (ws.streaming.readHalf.isClosed ∧ done.length = expected ∨
      ∃ remaining, done.length + remaining = expected ∧ Awaits limits later remaining bound ws)

/-- The reads among the calls. -/
def reads (calls : List Call) : Nat := calls.count .pollNextFrame

namespace Receives

variable {limits : Limits} {messages delivered : List Frame} {expected bound : Nat}
  {ws next : WebSocket}

theorem dataFrames_control {frames : List Frame} {answer : Poll (Result Frame)}
    (control : ∀ frame, answer = .ready (.ok frame) → frame.opcode.isControl) :
    dataFrames (frames ++ (Answer.read answer).delivered.toList) = dataFrames frames := by
  match answer, control with
  | .pending, _ => simp [Answer.delivered]
  | .ready (.error _), _ => simp [Answer.delivered]
  | .ready (.ok frame), control => simp [Answer.delivered, dataFrames, control frame rfl]

private theorem pollNextFrame (receives : Receives limits messages expected bound delivered ws) :
    Receives limits messages expected (bound - 1)
      (delivered ++ (Answer.read ws.pollNextFrame.1).delivered.toList) ws.pollNextFrame.2 := by
  obtain ⟨done, later, split, same, ⟨closed, count⟩ | ⟨remaining, count, awaits⟩⟩ := receives
  · obtain ⟨reader, answer⟩ := WebSocket.pollNextFrame_closed closed
    have nothing : ∀ frame, ws.pollNextFrame.1 ≠ .ready (.ok frame) := by
      rcases answer with answer | ⟨answer, -⟩ | ⟨_, answer, -⟩ <;> simp [answer]
    refine ⟨done, later, split, ?_, .inl ⟨reader.readHalf ▸ closed, count⟩⟩
    rw [dataFrames_control fun frame found => absurd found (nothing frame), same]
  · have delivers := Delivers.readLoop ws.streaming.stream.incoming.length awaits
    unfold WebSocket.pollNextFrame
    generalize ws.readLoop (ws.streaming.stream.incoming.length + 1) = result at delivers ⊢
    cases delivers with
    | nothing control awaits =>
      exact ⟨done, later, split, by rw [dataFrames_control control, same],
        .inr ⟨remaining, count, awaits⟩⟩
    | closed control closed =>
      exact ⟨done, later, split, by rw [dataFrames_control control, same], .inl ⟨closed, count⟩⟩
    | @message others remaining message frame after content further =>
      have data : frame.opcode.isControl = false := by
        have opcode : frame.opcode = message.opcode := congrArg (·.2.1) content
        rcases (awaits.allowed message (by simp)).data with text | binary
        · simp [opcode, text, OpCode.isControl]
        · simp [opcode, binary, OpCode.isControl]
      refine ⟨done ++ [message], others, by simp [split], ?_, .inr ⟨remaining, ?_, further⟩⟩
      · rw [List.map_append, ← same]
        simp [Answer.delivered, dataFrames, data, content]
      · rw [List.length_append, List.length_singleton]
        omega

/-- Only reads deliver. -/
theorem step_silent {call : Call} {answer : Answer} (writing : call ≠ .pollNextFrame)
    (taken : ws.step call = some (answer, next)) : answer.delivered = none := by
  rcases WebSocket.step_answer writing taken with ⟨reply, rfl⟩ | ⟨result, rfl⟩
  · rfl
  · rfl

/-- Whatever the receiver's user calls, messages are only delivered in order. -/
theorem step (receives : Receives limits messages expected bound delivered ws) {call : Call}
    {answer : Answer} (taken : ws.step call = some (answer, next)) :
    Receives limits messages expected (bound - reads [call]) (delivered ++ answer.delivered.toList)
      next := by
  by_cases reading : call = .pollNextFrame
  · subst reading
    simp only [WebSocket.step, Option.some.injEq, Prod.mk.injEq] at taken
    obtain ⟨rfl, rfl⟩ := taken
    exact receives.pollNextFrame
  · have writes := WebSocket.step_writes reading taken
    have silent := step_silent reading taken
    obtain ⟨done, later, split, same, state⟩ := receives
    have none : reads [call] = 0 := by simp [reads, reading]
    refine ⟨done, later, split, by simpa [silent] using same, ?_⟩
    rw [none, Nat.sub_zero]
    rcases state with ⟨closed, count⟩ | ⟨remaining, count, awaits⟩
    · exact .inl ⟨writes.reader.readHalf ▸ closed, count⟩
    · exact .inr ⟨remaining, count, awaits.writes writes⟩

theorem run {trace : List (Call × Answer)} {final : WebSocket}
    (run : Trace.Run WebSocket.step (fun _ _ => True) ws trace final)
    (receives : Receives limits messages expected bound delivered ws) :
    Receives limits messages expected (bound - reads (trace.map Prod.fst))
      (delivered ++ trace.filterMap (·.2.delivered)) final := by
  induction run generalizing bound delivered with
  | nil => simpa [reads] using receives
  | @cons state call answer middle trace final _ taken _ ih =>
    have later := ih (receives.step taken)
    have count : bound - reads [call] - reads (trace.map Prod.fst) =
        bound - reads (call :: trace.map Prod.fst) := by
      simp only [reads, List.count_cons, List.count_nil]
      omega
    rw [List.map_cons, ← count]
    cases shown : answer.delivered with
    | none => simpa [shown] using later
    | some frame => simpa [shown] using later

/-- At the end everything has arrived that ends before a Close. -/
theorem finish (receives : Receives limits messages expected 0 delivered ws) :
    (dataFrames delivered).map Frame.content = (messages.take expected).map Frame.content := by
  obtain ⟨done, later, rfl, same, ⟨_, count⟩ | ⟨remaining, count, awaits⟩⟩ := receives
  · rw [same, ← count, List.take_left]
  · have empty : ws.streaming.stream.incoming = [] :=
      List.eq_nil_of_length_eq_zero (Nat.le_zero.mp awaits.within)
    have none : remaining = 0 := by
      rw [← awaits.ends, empty]
      rfl
    rw [same, ← count, none, Nat.add_zero, List.take_left]

end Receives

end Yawc
