import Yawc.Native.Delivery

/-! Messages between two connections that compress. The decompressor may lag behind
within a message, so fragments come out of other sizes than they went in. -/

namespace Yawc

/-- A compressor and the decompressor of the other end. As long as the calls on the
compressor are `Honest`, the decompressor gives back what went in, the rest of it being
`Behind`, and all of it by the end of a message. -/
structure Restoration where
  compress : List (Bytes × Bool) → Bytes → Bool → Except String Bytes
  decompress : List (Bytes × Bool × Nat) → Bytes → Bool → Nat → Except InflateError Bytes
  Honest : List (Bytes × Bool) → Prop
  Behind : List (Bytes × Bool) → List (Bytes × Bool × Nat) → Bytes → Prop
  front : ∀ {calls more}, Honest (calls ++ more) → Honest calls
  start : Behind [] [] []
  step : ∀ {calls done behind}, Behind calls done behind → ∀ {input flush output},
    Honest (calls ++ [(input, flush)]) → compress calls input flush = .ok output →
    ∀ {bound}, (behind ++ input).length < bound →
      ∃ shown rest, decompress done output flush bound = .ok shown ∧
        behind ++ input = shown ++ rest ∧ (flush → rest = []) ∧
        Behind (calls ++ [(input, flush)]) (done ++ [(output, flush, bound)]) rest

/-- Frames in which what a sender is given arrives, with control frames anywhere in
between. They may be cut off. -/
inductive Ships (codec : Restoration) :
    Sender → List Frame → List Frame → Prop where
  | done {sender : Sender} {items : List Frame} : Ships codec sender items []
  | control {sender : Sender} {items rest : List Frame} {raw : Frame}
      (control : raw.opcode.isControl) (later : Ships codec sender items rest) :
      Ships codec sender items (raw :: rest)
  | item {sender next : Sender} {items rest : List Frame} {item frame raw : Frame}
      (data : raw.opcode.isControl = false) (sent : sender.send item = (.ok frame, next))
      (same : raw.content = frame.content) (fair : codec.Honest next.calls)
      (later : Ships codec next items rest) : Ships codec sender (item :: items) (raw :: rest)

section Streaming

variable {codec : Restoration}

/-- A receiver that has taken all that the sender sent, some of it still behind. -/
structure Restoring (codec : Restoration) (sender : Sender) (behind : Bytes)
    (receiver : Streaming) : Prop where
  deflating : sender.deflate = some { output := codec.compress, calls := sender.calls }
  inflating : ∃ done, receiver.inflate = some { output := codec.decompress, calls := done } ∧
    codec.Behind sender.calls done behind
  follows : receiver.readHalf.compressedStream = sender.streaming

private theorem receive_item {sender next : Sender} {half : ReadHalf} {item frame raw : Frame}
    (deflating : sender.deflate.isSome) (follows : half.compressedStream = sender.streaming)
    (sent : sender.send item = (.ok frame, next)) (same : raw.content = frame.content)
    (data : item.opcode.isControl = false) (plain : item.isCompressed = false)
    (continues : item.opcode = .continuation ↔ sender.streaming) :
    (half.receive raw).1 = { raw with mask := none, isCompressed := sender.compresses item } ∧
      (half.receive raw).2 = { half with compressedStream := next.streaming } ∧
      raw.opcode = item.opcode ∧ raw.fin = item.fin := by
  obtain ⟨shape, -, -, streaming⟩ := Sender.send_compressing deflating sent
  have fragment (kind : half.compressedStream = true ∨ item.fin = false) :
      sender.compresses item :=
    Sender.compresses_fragment deflating data (kind.imp_left fun opened =>
      continues.mpr (follows ▸ opened))
  have payload : raw.payload = frame.payload := congrArg (·.2.2.2) same
  have emitted : Emitted sender.compresses half.compressedStream [(item, raw)] := by
    refine ⟨?_, plain, ?_⟩
    · rw [same, payload, follows]
      refine (congrArg Frame.content shape).trans ?_
      split
      · rfl
      · rfl
    · rw [if_neg (by simp [data])]
      exact ⟨follows ▸ continues, fragment, trivial⟩
  obtain ⟨received, -, opcode, fin, -, -⟩ := receive_emitted emitted
  refine ⟨received, ?_, opcode, fin⟩
  have counts : (raw.isCompressed || !raw.opcode.isControl && half.compressedStream) =
      sender.compresses item := congrArg Frame.isCompressed received
  rw [data] at streaming
  have other : raw.opcode ≠ .close := fun close => by simp [← opcode, close, OpCode.isControl] at data
  have stream : (half.receive raw).2.compressedStream = next.streaming := by
    rw [streaming]
    simp only [ReadHalf.receive]
    rw [counts, opcode, fin]
    cases opened : half.compressedStream with
    | true =>
      have kind : item.opcode = .continuation := continues.mpr (follows ▸ opened)
      simp [kind]
    | false =>
      have kind : item.opcode ≠ .continuation := fun kind => by
        simp [← follows, opened, kind] at continues
      cases ended : item.fin with
      | true => simp
      | false =>
        have starts : item.opcode = .text ∨ item.opcode = .binary := by
          cases opcode : item.opcode <;> simp [opcode, OpCode.isControl] at data kind ⊢
        rcases starts with text | binary
        · simp [text, fragment (.inr ended)]
        · simp [binary, fragment (.inr ended)]
  rw [← stream]
  simp [ReadHalf.receive, other]

private theorem send_output {sender next : Sender} {item frame : Frame}
    (deflating : sender.deflate = some { output := codec.compress, calls := sender.calls })
    (sent : sender.send item = (.ok frame, next)) :
    next.deflate = some { output := codec.compress, calls := next.calls } ∧
      if sender.compresses item then
        codec.compress sender.calls item.payload item.fin = .ok frame.payload ∧
          next.calls = sender.calls ++ [(item.payload, item.fin)]
      else frame = item ∧ next.calls = sender.calls := by
  unfold Sender.send at sent
  rw [deflating] at sent
  simp only at sent
  split at sent
  · rename_i compresses
    simp only [compresses, ↓reduceIte, Compressor.compress] at sent ⊢
    cases output : codec.compress sender.calls item.payload item.fin with
    | error error => simp [output, Except.mapError] at sent
    | ok output =>
      simp only [output, Except.mapError, Prod.mk.injEq, Except.ok.injEq] at sent
      obtain ⟨rfl, rfl⟩ := sent
      exact ⟨rfl, rfl, rfl⟩
  · rename_i plain
    simp only [Prod.mk.injEq, Except.ok.injEq] at sent
    obtain ⟨rfl, rfl⟩ := sent
    simp only [plain, Bool.false_eq_true, ↓reduceIte]
    exact ⟨deflating, trivial, rfl⟩

private theorem onFrame_inflated {self : Streaming} {frame : Frame} {maxReadBuffer : Nat}
    {done : List (Bytes × Bool × Nat)} {shown : Bytes} (data : frame.opcode.isControl = false)
    (inflating : self.inflate = some { output := codec.decompress, calls := done })
    (compressed : frame.isCompressed)
    (inflated : codec.decompress done frame.payload frame.fin (self.maxOutputSize frame maxReadBuffer) =
      .ok shown)
    (short : shown.length < self.maxOutputSize frame maxReadBuffer) :
    self.onFrame frame maxReadBuffer =
      (.ok { frame with isCompressed := false, payload := shown },
        { self with inflate := some {
            output := codec.decompress
            calls := done ++
              [(frame.payload, frame.fin, self.maxOutputSize frame maxReadBuffer)] } }) := by
  have taken : self.onData frame maxReadBuffer =
      (.ok { frame with isCompressed := false, payload := shown },
        { self with inflate := some {
            output := codec.decompress
            calls := done ++
              [(frame.payload, frame.fin, self.maxOutputSize frame maxReadBuffer)] } }) := by
    simp [Streaming.onData, Streaming.inflateFrame, compressed, inflating, Decompressor.decompress,
      inflated, Except.mapError, Except.map, short]
  cases opcode : frame.opcode <;> simp_all [Streaming.onFrame, OpCode.isControl]

/-- A frame of a message is inflated to some of what is behind, and the last one to all
of it. -/
theorem Restoring.takes {sender next : Sender} {behind : Bytes} {r : Streaming} {item frame raw : Frame}
    {maxReadBuffer : Nat} (restoring : Restoring codec sender behind r) (later : Framed)
    (sent : sender.send item = (.ok frame, next)) (same : raw.content = frame.content)
    (fair : codec.Honest next.calls) (data : item.opcode.isControl = false)
    (plain : item.isCompressed = false) (continues : item.opcode = .continuation ↔ sender.streaming)
    (idle : sender.streaming = false → behind = [])
    (fits : (behind ++ item.payload).length < r.maxPayloadRead)
    (room : (behind ++ item.payload).length < maxReadBuffer) :
    ∃ shown rest after,
      Streaming.onFrame
        { r with stream := later, readHalf := (r.readHalf.receive raw).2 }
        (r.readHalf.receive raw).1 maxReadBuffer =
        (.ok { raw with mask := none, isCompressed := false, payload := shown }, after) ∧
      raw.opcode = item.opcode ∧ raw.fin = item.fin ∧
      behind ++ item.payload = shown ++ rest ∧ (item.fin → rest = []) ∧
      Restoring codec next rest after ∧ after.stream = later ∧
      after.readHalf.isClosed = r.readHalf.isClosed ∧
      after.maxPayloadRead = r.maxPayloadRead := by
  obtain ⟨done, inflating, lags⟩ := restoring.inflating
  obtain ⟨received, half, opcode, fin⟩ := receive_item (by rw [restoring.deflating]; rfl)
    restoring.follows sent same data plain continues
  obtain ⟨deflating, output⟩ := send_output restoring.deflating sent
  have payload : raw.payload = frame.payload := congrArg (·.2.2.2) same
  have kind : raw.opcode.isControl = false := opcode ▸ data
  rw [received, half]
  generalize before : ({ r with
    stream := later, readHalf := { r.readHalf with compressedStream := next.streaming } } :
      Streaming) = self
  have within (frame : Frame) :
      (behind ++ item.payload).length < self.maxOutputSize frame maxReadBuffer := by
    unfold Streaming.maxOutputSize
    rw [← before]
    split
    · exact Nat.lt_min.mpr ⟨fits, room⟩
    · exact fits
  by_cases compresses : sender.compresses item
  · rw [if_pos compresses] at output
    obtain ⟨compressed, calls⟩ := output
    rw [calls] at fair
    obtain ⟨shown, rest, inflated, split, ends, further⟩ := codec.step lags fair compressed
      (within { raw with mask := none, isCompressed := sender.compresses item })
    have short : shown.length ≤ (behind ++ item.payload).length := by
      rw [split, List.length_append]
      exact Nat.le_add_right _ _
    rw [← payload, ← fin] at inflated further
    refine ⟨shown, rest, _, onFrame_inflated kind (by rw [← before]; exact inflating) compresses
      inflated (Nat.lt_of_le_of_lt short (within _)), opcode, fin, split, ends,
      ⟨deflating, ⟨_, rfl, ?_⟩, by rw [← before]⟩, by rw [← before], by rw [← before],
      by rw [← before]⟩
    rw [calls]
    simpa [fin] using further
  · rw [if_neg compresses] at output
    obtain ⟨rfl, calls⟩ := output
    have small : sender.streaming = false := by
      rw [← Bool.not_eq_true, ← continues]
      intro continuation
      exact compresses (Sender.compresses_fragment (by rw [restoring.deflating]; rfl) data
        (.inl continuation))
    obtain rfl := idle small
    have unpressed : sender.compresses frame = false := by simpa using compresses
    refine ⟨raw.payload, [], self, ?_, opcode, fin, by simp [payload], by simp,
      ⟨deflating, ⟨done, by rw [← before]; exact inflating, by rw [calls]; exact lags⟩,
        by rw [← before]⟩, by rw [← before], by rw [← before], by rw [← before]⟩
    rw [unpressed]
    exact Streaming.onFrame_plain kind rfl (by simpa [payload] using within _)

end Streaming

namespace FragmentLayer

variable {self : FragmentLayer} {behind : Bytes}

/-- The open message, with what is still behind of it. -/
def held (self : FragmentLayer) (behind : Bytes) : Option (OpCode × Bytes) :=
  self.opened.map fun (_, opcode, buffer) => (opcode, buffer ++ behind)

private theorem joined_held {item received : Frame} {rest : Bytes}
    (idle : self.opened = none → behind = []) (opcode : received.opcode = item.opcode)
    (split : behind ++ item.payload = received.payload ++ rest) :
    joined (self.held behind) item =
      ((joined (self.opened.map Prod.snd) received).1,
        (joined (self.opened.map Prod.snd) received).2 ++ rest) := by
  unfold held
  cases opened : self.opened with
  | none =>
    rw [idle opened, List.nil_append] at split
    simp [joined, opcode, split]
  | some message =>
    simp only [Option.map_some, joined, List.append_assoc, split]

private theorem held_room {item : Frame} (buffered : self.Buffered)
    (idle : self.opened = none → behind = [])
    (small : (joined (self.held behind) item).2.length < self.maxReadBuffer) :
    (behind ++ item.payload).length < self.remainingReadCapacity := by
  unfold held at small
  unfold remainingReadCapacity
  cases state : self.incomingFragment with
  | none =>
    rw [idle (by simp [opened, state])]
    simpa [opened, state, joined] using small
  | some fragment =>
    simp only [opened, state, Option.map_some, joined, List.length_append] at small
    simp only [Option.map_some, Option.getD_some, (buffered fragment state).1, List.length_append]
    omega

end FragmentLayer

private theorem ReadHalf.receive_control {self : ReadHalf} {raw : Frame}
    (control : raw.opcode.isControl)
    (other : raw.opcode ≠ .close) : (self.receive raw).2 = self := by
  obtain ⟨stream, closed⟩ := self
  cases opcode : raw.opcode <;> simp_all [receive, OpCode.isControl]

/-- An open connection that compressed messages are still to arrive at, the last frame
of `remaining` of them before a Close. -/
structure Expects (codec : Restoration) (limits : Limits) (messages : List Frame)
    (remaining bound : Nat) (ws : WebSocket) : Prop where
  reading : ws.streaming.readHalf.isClosed = false
  same : ws.limits = limits
  allowed : ∀ message ∈ messages,
    limits.Allows message ∧ message.payload.length < limits.maxPayloadRead
  frames : OnlyFrames ws.streaming.stream.incoming
  shipped : ∃ sender items behind, Restoring codec sender behind ws.streaming ∧
    Ships codec sender items (arriving ws.streaming.stream.incoming) ∧
    Carries (ws.fragmentLayer.held behind) messages items ∧
    sender.streaming = ws.fragmentLayer.opened.isSome ∧
    (ws.fragmentLayer.opened = none → behind = [])
  timely : ∀ timeout, limits.fragmentTimeout = some timeout →
    Timely timeout (ws.fragmentLayer.opened.map Prod.fst) ws.streaming.stream.incoming
  buffered : ws.fragmentLayer.Buffered
  ends : finished (arriving ws.streaming.stream.incoming) = remaining
  within : ws.streaming.stream.incoming.length ≤ bound

section Receiving

variable {codec : Restoration} {limits : Limits} {messages : List Frame} {remaining bound : Nat}
  {ws : WebSocket}

theorem Restoring.same {sender : Sender} {behind : Bytes} {before after : Streaming}
    (restoring : Restoring codec sender behind before)
    (inflate : after.inflate = before.inflate) (half : after.readHalf = before.readHalf) :
    Restoring codec sender behind after where
  deflating := restoring.deflating
  inflating := inflate ▸ restoring.inflating
  follows := half ▸ restoring.follows

namespace Expects

theorem mono {wider : Nat} (expects : Expects codec limits messages remaining bound ws)
    (le : bound ≤ wider) : Expects codec limits messages remaining wider ws :=
  { expects with within := Nat.le_trans expects.within le }

theorem writes (expects : Expects codec limits messages remaining bound ws)
    {next : WebSocket} (writes : WebSocket.OnlyWrites ws next) :
    Expects codec limits messages remaining bound next := by
  obtain ⟨⟨readHalf, inflate, payload, _, _, ⟨incoming, _⟩⟩, ⟨waiting, layer⟩, check⟩ := writes
  obtain ⟨streaming, checkUtf8, fragmentLayer⟩ := next
  dsimp only at layer
  subst layer
  obtain ⟨sender, items, behind, restoring, ships, carries⟩ := expects.shipped
  exact {
    reading := readHalf ▸ expects.reading
    same := by rw [← expects.same]; simp_all [WebSocket.limits]
    allowed := expects.allowed
    frames := incoming ▸ expects.frames
    shipped := ⟨sender, items, behind, restoring.same inflate readHalf, incoming ▸ ships, carries⟩
    timely := incoming ▸ expects.timely
    buffered := expects.buffered
    ends := incoming ▸ expects.ends
    within := incoming ▸ expects.within }

private theorem pending (expects : Expects codec limits messages remaining bound ws)
    {later : Framed} (takes : ws.streaming.stream.Takes later .pending) :
    Expects codec limits messages remaining (bound - 1)
      { ws with streaming := { ws.streaming with stream := later } } where
  reading := expects.reading
  same := expects.same
  allowed := expects.allowed
  frames := takes.onlyFrames expects.frames
  shipped := by
    obtain ⟨sender, items, behind, restoring, ships, carries⟩ := expects.shipped
    exact ⟨sender, items, behind, restoring.same rfl rfl, takes.arriving_pending ▸ ships, carries⟩
  timely := fun timeout set => (expects.timely timeout set).pending takes
  buffered := expects.buffered
  ends := takes.arriving_pending ▸ expects.ends
  within := takes.within expects.within

theorem arrives (expects : Expects codec limits messages remaining bound ws) {later : Framed}
    {raw : Frame} (takes : ws.streaming.stream.Takes later (.ready (some (.ok raw)))) :
    arriving ws.streaming.stream.incoming = raw :: arriving later.incoming ∧
      finished (raw :: arriving later.incoming) = remaining := by
  obtain ⟨_, same, next⟩ := takes.arriving_ready expects.frames
  simp only [Option.some.injEq, Except.ok.injEq] at same
  subst same
  exact ⟨next, next ▸ expects.ends⟩

theorem took (expects : Expects codec limits messages remaining bound ws) {later : Framed}
    {raw : Frame} {streaming : Streaming} {layer : FragmentLayer} {others : List Frame}
    (takes : ws.streaming.stream.Takes later (.ready (some (.ok raw))))
    (stream : streaming.stream = later) (reading : streaming.readHalf.isClosed = false)
    (same : WebSocket.limits { ws with streaming, fragmentLayer := layer } = ws.limits)
    (fewer : others ⊆ messages)
    (shipped : ∃ sender items behind, Restoring codec sender behind streaming ∧
      Ships codec sender items (arriving later.incoming) ∧
      Carries (layer.held behind) others items ∧ sender.streaming = layer.opened.isSome ∧
      (layer.opened = none → behind = []))
    (timely : ∀ timeout, limits.fragmentTimeout = some timeout →
      Timely timeout (layer.opened.map Prod.fst) later.incoming)
    (buffered : layer.Buffered) :
    Expects codec limits others (finished (arriving later.incoming)) (bound - 1)
      { ws with streaming, fragmentLayer := layer } := by
  subst stream
  constructor
  · exact reading
  · exact same.trans expects.same
  · exact fun message member => expects.allowed message (fewer member)
  · exact takes.onlyFrames expects.frames
  · exact shipped
  · exact timely
  · exact buffered
  · rfl
  · exact takes.within expects.within

theorem control (expects : Expects codec limits messages remaining bound ws) {later : Framed}
    {raw received : Frame} {streaming : Streaming} {maxReadBuffer : Nat}
    (takes : ws.streaming.stream.Takes later (.ready (some (.ok raw))))
    (control : raw.opcode.isControl) (other : raw.opcode ≠ .close)
    (taken : Streaming.onFrame
      { ws.streaming with stream := later, readHalf := (ws.streaming.readHalf.receive raw).2 }
      (ws.streaming.readHalf.receive raw).1 maxReadBuffer = (.ok received, streaming)) :
    Expects codec limits messages remaining (bound - 1) { ws with streaming } := by
  obtain ⟨next, ends⟩ := expects.arrives takes
  rw [← ends, finished_control control other]
  obtain ⟨sender, items, behind, restoring, ships, carries⟩ := expects.shipped
  rw [next] at ships
  have further : Ships codec sender items (arriving later.incoming) := by
    cases ships with
    | control _ later => exact later
    | item data _ _ _ _ => simp [data] at control
  have outcome := Streaming.onFrame_outcome
    { ws.streaming with stream := later, readHalf := (ws.streaming.readHalf.receive raw).2 }
    (ws.streaming.readHalf.receive raw).1 maxReadBuffer
  rw [taken, ReadHalf.receive_control control other] at outcome
  have rest (stream : streaming.stream = later) (half : streaming.readHalf = ws.streaming.readHalf)
      (inflate : streaming.inflate = ws.streaming.inflate)
      (limit : streaming.maxPayloadRead = ws.streaming.maxPayloadRead) :
      Expects codec limits messages (finished (arriving later.incoming)) (bound - 1)
        { ws with streaming } :=
    expects.took takes stream (half ▸ expects.reading) (by simp [WebSocket.limits, limit])
      (List.Subset.refl _) ⟨sender, items, behind, restoring.same inflate half, further, carries⟩
      (fun timeout set => (expects.timely timeout set).control takes control other)
      expects.buffered
  cases outcome with
  | ping _ => exact rest rfl rfl rfl rfl
  | pong _ => exact rest rfl rfl rfl rfl
  | close opcode _ => exact absurd opcode other
  | data data _ =>
    have kind : raw.opcode.isControl = false := data
    simp [kind] at control

/-- What the layer below makes of a frame of a message: with what stays behind it is
what the sender was given. -/
structure Inflated (codec : Restoration) (ws : WebSocket) (later : Framed) (next : Sender)
    (behind rest : Bytes) (item received : Frame) (after : Streaming) : Prop where
  belongs : Belongs (ws.fragmentLayer.opened.map Prod.snd) received
  fin : received.fin = item.fin
  held : joined (ws.fragmentLayer.held behind) item =
    ((joined (ws.fragmentLayer.opened.map Prod.snd) received).1,
      (joined (ws.fragmentLayer.opened.map Prod.snd) received).2 ++ rest)
  all : item.fin → rest = []
  restoring : Restoring codec next rest after
  stream : after.stream = later
  reading : after.readHalf.isClosed = false
  limit : after.maxPayloadRead = ws.streaming.maxPayloadRead

private theorem passes (expects : Expects codec limits messages remaining bound ws) {later : Framed}
    {raw item frame : Frame} {sender next : Sender} {behind whole : Bytes}
    (restoring : Restoring codec sender behind ws.streaming)
    (opened : sender.streaming = ws.fragmentLayer.opened.isSome)
    (idle : ws.fragmentLayer.opened = none → behind = [])
    (sent : sender.send item = (.ok frame, next)) (same : raw.content = frame.content)
    (fair : codec.Honest next.calls) (belongs : Belongs (ws.fragmentLayer.held behind) item)
    (part : (joined (ws.fragmentLayer.held behind) item).2 <+: whole)
    (small : whole.length < ws.fragmentLayer.maxReadBuffer)
    (fits : whole.length < ws.streaming.maxPayloadRead) :
    ∃ received rest after,
      Streaming.onFrame
        { ws.streaming with stream := later, readHalf := (ws.streaming.readHalf.receive raw).2 }
        (ws.streaming.readHalf.receive raw).1 ws.fragmentLayer.remainingReadCapacity =
        (.ok received, after) ∧
      Inflated codec ws later next behind rest item received after := by
  have continues : item.opcode = .continuation ↔ sender.streaming := by
    rw [belongs.continues, opened, FragmentLayer.held, Option.isSome_map]
  have room := FragmentLayer.held_room expects.buffered idle
    (Nat.lt_of_le_of_lt part.length_le small)
  have within : (behind ++ item.payload).length ≤ whole.length := by
    refine Nat.le_trans ?_ part.length_le
    unfold FragmentLayer.held
    cases open' : ws.fragmentLayer.opened with
    | none => simp [joined, idle open']
    | some message => simp [joined]
  obtain ⟨shown, rest, after, taken, opcode, fin, split, all, restoring', stream, closed, limit⟩ :=
    restoring.takes later sent same fair belongs.data belongs.plain continues
      (fun quiet => idle (by rw [opened] at quiet; simpa using quiet))
      (Nat.lt_of_le_of_lt within fits) room
  refine ⟨_, rest, after, taken, ?_, fin, ?_, all, restoring', stream, closed.trans expects.reading,
    limit⟩
  · refine ⟨opcode ▸ belongs.data, rfl, ?_⟩
    rw [show ({ raw with mask := none, isCompressed := false, payload := shown } : Frame).opcode =
      item.opcode from opcode, continues, opened, Option.isSome_map]
  · exact FragmentLayer.joined_held idle opcode split

variable {later : Framed} {message raw item received : Frame} {next : Sender}
  {behind rest : Bytes} {after : Streaming} {items : List Frame}

private theorem inflated_small (expects : Expects codec limits (message :: messages) remaining bound ws)
    (inflated : Inflated codec ws later next behind rest item received after)
    (part : (joined (ws.fragmentLayer.held behind) item).2 <+: message.payload) :
    (joined (ws.fragmentLayer.opened.map Prod.snd) received).2.length <
      ws.fragmentLayer.maxReadBuffer := by
  have limit : ws.fragmentLayer.maxReadBuffer = limits.maxReadBuffer := by rw [← expects.same]; rfl
  have short := part.length_le
  rw [inflated.held, List.length_append] at short
  have small := (expects.allowed message (by simp)).1.small
  rw [limit]
  omega

theorem joins (expects : Expects codec limits (message :: messages) remaining bound ws)
    (takes : ws.streaming.stream.Takes later (.ready (some (.ok raw))))
    (data : raw.opcode.isControl = false)
    (inflated : Inflated codec ws later next behind rest item received after)
    (part : (joined (ws.fragmentLayer.held behind) item).2 <+: message.payload) :
    (received.fin → ∃ whole layer,
      ws.fragmentLayer.assembleIncoming received later.clock = (.ok (some whole), layer) ∧
      whole.content = (true, (joined (ws.fragmentLayer.opened.map Prod.snd) received).1, false,
        (joined (ws.fragmentLayer.opened.map Prod.snd) received).2) ∧
      layer.incomingFragment = none) ∧
    (received.fin = false → ∃ layer,
      ws.fragmentLayer.assembleIncoming received later.clock = (.ok none, layer) ∧
      layer.opened = some ((ws.fragmentLayer.opened.map Prod.fst).getD later.clock,
        joined (ws.fragmentLayer.opened.map Prod.snd) received) ∧ layer.Buffered) := by
  refine FragmentLayer.assembleIncoming_joins expects.buffered inflated.belongs
    (expects.inflated_small inflated part) fun timeout set => ?_
  have limit : limits.fragmentTimeout = some timeout := by rw [← expects.same]; exact set
  exact ((expects.timely timeout limit).data takes data).1

theorem inflated_limits (inflated : Inflated codec ws later next behind rest item received after)
    {now : Nat} {result : Result (Option Frame)} {layer : FragmentLayer}
    (assembled : ws.fragmentLayer.assembleIncoming received now = (result, layer)) :
    WebSocket.limits { ws with streaming := after, fragmentLayer := layer } = ws.limits := by
  have settings := FragmentLayer.assembleIncoming_same ws.fragmentLayer received now
  simp only [assembled] at settings
  simp [WebSocket.limits, settings.2.2.1, settings.2.2.2, inflated.limit]

private theorem completes (expects : Expects codec limits (message :: messages) remaining bound ws)
    (takes : ws.streaming.stream.Takes later (.ready (some (.ok raw))))
    (data : raw.opcode.isControl = false) (same : raw.fin = item.fin) (fin : item.fin)
    (inflated : Inflated codec ws later next behind rest item received after)
    (streaming : next.streaming = false)
    (complete : joined (ws.fragmentLayer.held behind) item = (message.opcode, message.payload))
    (ships : Ships codec next items (arriving later.incoming))
    (carries : Carries none messages items) :
    ∃ whole final, WebSocket.onFrame { ws with streaming := after } received =
        (.ok (some whole), final) ∧
      whole.content = message.content ∧
      Expects codec limits messages (finished (arriving later.incoming)) (bound - 1) final := by
  have allowed := (expects.allowed message (by simp)).1
  obtain rfl : limits = ws.limits := expects.same.symm
  obtain ⟨whole, layer, assembled, content, closed⟩ :=
    (expects.joins takes data inflated (by simp [complete])).1 (inflated.fin.trans fin)
  have drained := inflated.all fin
  have joins := inflated.held
  rw [drained, List.append_nil, complete, Prod.mk.injEq] at joins
  have equal : whole.content = message.content := by
    rw [content, ← joins.1, ← joins.2]
    simp [Frame.content, allowed.whole, allowed.plain]
  have none : layer.opened = none := by simp [FragmentLayer.opened, closed]
  refine ⟨whole, _, WebSocket.onFrame_delivers (by rw [inflated.stream]; exact assembled) ?_,
    equal, ?_⟩
  · intro text check
    have payload : whole.payload = message.payload := congrArg (·.2.2.2) equal
    have opcode : whole.opcode = message.opcode := congrArg (·.2.1) equal
    rw [payload]
    exact allowed.valid (opcode ▸ text) check
  · refine expects.took takes inflated.stream inflated.reading (inflated_limits inflated assembled)
      (by simp) ⟨next, items, [], drained ▸ inflated.restoring, ships, ?_, ?_, fun _ => rfl⟩ ?_ ?_
    · simpa [FragmentLayer.held, none] using carries
    · simp [none, streaming]
    · intro timeout set
      simpa [none, same, fin] using ((expects.timely timeout set).data takes data).2
    · intro fragment found
      simp [closed] at found

private theorem absorbs (expects : Expects codec limits (message :: messages) remaining bound ws)
    (takes : ws.streaming.stream.Takes later (.ready (some (.ok raw))))
    (data : raw.opcode.isControl = false) (same : raw.fin = item.fin) (fin : item.fin = false)
    (inflated : Inflated codec ws later next behind rest item received after)
    (streaming : next.streaming = true)
    (part : (joined (ws.fragmentLayer.held behind) item).2 <+: message.payload)
    (ships : Ships codec next items (arriving later.incoming))
    (carries : Carries (some (joined (ws.fragmentLayer.held behind) item)) (message :: messages)
      items) :
    ∃ final, WebSocket.onFrame { ws with streaming := after } received = (.ok none, final) ∧
      Expects codec limits (message :: messages) (finished (arriving later.incoming)) (bound - 1)
        final := by
  obtain ⟨layer, assembled, opened, buffered⟩ :=
    (expects.joins takes data inflated part).2 (inflated.fin.trans fin)
  refine ⟨_, WebSocket.onFrame_waits (by rw [inflated.stream]; exact assembled), ?_⟩
  refine expects.took takes inflated.stream inflated.reading (inflated_limits inflated assembled)
    (List.Subset.refl _) ⟨next, items, rest, inflated.restoring, ships, ?_, ?_, ?_⟩ ?_ buffered
  · rw [inflated.held] at carries
    simpa [FragmentLayer.held, opened] using carries
  · simp [opened, streaming]
  · simp [opened]
  · intro timeout set
    simpa [opened, same, fin] using ((expects.timely timeout set).data takes data).2

end Expects

/-- What a read comes to, as for frames that are not compressed. -/
inductive Yields (codec : Restoration) (limits : Limits) (bound : Nat) :
    List Frame → Nat → Poll (Result Frame) × WebSocket → Prop where
  | nothing {messages : List Frame} {remaining : Nat} {result : Poll (Result Frame) × WebSocket}
      (control : ∀ frame, result.1 = .ready (.ok frame) → frame.opcode.isControl)
      (expects : Expects codec limits messages remaining bound result.2) :
      Yields codec limits bound messages remaining result
  | message {messages : List Frame} {remaining : Nat} {message frame : Frame} {after : WebSocket}
      (same : frame.content = message.content)
      (expects : Expects codec limits messages remaining bound after) :
      Yields codec limits bound (message :: messages) (remaining + 1) (.ready (.ok frame), after)
  | closed {messages : List Frame} {result : Poll (Result Frame) × WebSocket}
      (control : ∀ frame, result.1 = .ready (.ok frame) → frame.opcode.isControl)
      (closed : result.2.streaming.readHalf.isClosed) :
      Yields codec limits bound messages 0 result

namespace Yields

theorem mono {wider : Nat} {result : Poll (Result Frame) × WebSocket}
    (yields : Yields codec limits bound messages remaining result) (le : bound ≤ wider) :
    Yields codec limits wider messages remaining result := by
  cases yields with
  | nothing control expects => exact .nothing control (expects.mono le)
  | message same expects => exact .message same (expects.mono le)
  | closed control closed => exact .closed control closed

variable {next : WebSocket → Poll (Result Frame) × WebSocket} {later : Framed}
  {raw received : Frame} {after : Streaming}

/-- What becomes of a frame that the layer below accepted. -/
def Handled (next : WebSocket → Poll (Result Frame) × WebSocket) (ws : WebSocket)
    (received : Frame) : Poll (Result Frame) × WebSocket :=
  match ws.onFrame received with
  | (.error error, self) => (.ready (.error error), self)
  | (.ok (some frame), self) => (.ready (.ok frame), self)
  | (.ok none, self) => next self

theorem control (expects : Expects codec limits messages remaining bound ws)
    (takes : ws.streaming.stream.Takes later (.ready (some (.ok raw))))
    (control : raw.opcode.isControl)
    (taken : Streaming.onFrame
      { ws.streaming with stream := later, readHalf := (ws.streaming.readHalf.receive raw).2 }
      (ws.streaming.readHalf.receive raw).1 ws.fragmentLayer.remainingReadCapacity =
      (.ok received, after)) :
    Yields codec limits (bound - 1) messages remaining
      (Handled next { ws with streaming := after } received) := by
  have kind : received.opcode.isControl := by
    rw [(Streaming.onFrame_received taken).1]
    exact control
  have text : received.opcode ≠ .text := fun text => by simp [text, OpCode.isControl] at kind
  rw [Handled, WebSocket.onFrame_delivers (FragmentLayer.assembleIncoming_control kind)
    fun found => absurd found text]
  by_cases close : raw.opcode = .close
  · obtain ⟨-, ends⟩ := expects.arrives takes
    rw [finished_close close] at ends
    subst ends
    exact .closed (by simpa using kind) (Delivers.close_stops close taken)
  · exact .nothing (by simpa using kind) (expects.control takes control close taken)

private theorem item (expects : Expects codec limits messages remaining bound ws)
    (further : ∀ {after}, Expects codec limits messages remaining (bound - 1) after →
      Yields codec limits (bound - 1) messages remaining (next after))
    (takes : ws.streaming.stream.Takes later (.ready (some (.ok raw))))
    (data : raw.opcode.isControl = false) :
    ∃ received after, Streaming.onFrame
      { ws.streaming with stream := later, readHalf := (ws.streaming.readHalf.receive raw).2 }
      (ws.streaming.readHalf.receive raw).1 ws.fragmentLayer.remainingReadCapacity =
      (.ok received, after) ∧
    Yields codec limits (bound - 1) messages remaining
      (Handled next { ws with streaming := after } received) := by
  obtain ⟨arrived, ends⟩ := expects.arrives takes
  obtain ⟨sender, items, behind, restoring, ships, carries, opened, idle⟩ := expects.shipped
  rw [arrived] at ships
  cases ships with
  | control control _ => simp [data] at control
  | @item _ following items _ item frame _ _ sent same fair ships =>
    obtain ⟨opcode, fin, -, streaming, -⟩ := Streaming.send_frame sent
    have kind : raw.opcode = item.opcode := (congrArg (·.2.1) same).trans opcode
    have final : raw.fin = item.fin := (congrArg (·.1) same).trans fin
    rw [Sender.after, if_neg (by simp [← kind, data])] at streaming
    have limit : ws.fragmentLayer.maxReadBuffer = limits.maxReadBuffer := by
      rw [← expects.same]; rfl
    have payload : ws.streaming.maxPayloadRead = limits.maxPayloadRead := by
      rw [← expects.same]; rfl
    cases carries with
    | control control _ => simp [← kind, data] at control
    | @last _ messages _ message _ belongs ended complete carries =>
      obtain ⟨allowed, fits⟩ := expects.allowed message (by simp)
      obtain ⟨received, rest, after, taken, inflated⟩ := expects.passes restoring opened idle sent
        same fair belongs (by rw [complete]) (limit ▸ allowed.small) (payload ▸ fits)
      refine ⟨received, after, taken, ?_⟩
      obtain ⟨whole, reached, assembled, content, later⟩ := expects.completes takes data final ended
        inflated (by simp [streaming, ended]) complete ships carries
      rw [Handled, assembled, ← ends, finished_data data, if_pos (final ▸ ended)]
      exact .message content later
    | @more _ messages _ message _ belongs ended _ part carries =>
      obtain ⟨allowed, fits⟩ := expects.allowed message (by simp)
      obtain ⟨received, rest, after, taken, inflated⟩ := expects.passes restoring opened idle sent
        same fair belongs part (limit ▸ allowed.small) (payload ▸ fits)
      refine ⟨received, after, taken, ?_⟩
      obtain ⟨reached, assembled, later⟩ := expects.absorbs takes data final ended inflated
        (by simp [streaming, ended]) part ships carries
      rw [Handled, assembled]
      refine further ?_
      rw [← ends, finished_data data]
      simpa [final, ended] using later

private theorem round (expects : Expects codec limits messages remaining bound ws)
    (further : ∀ {after}, Expects codec limits messages remaining (bound - 1) after →
      Yields codec limits (bound - 1) messages remaining (next after)) :
    Yields codec limits (bound - 1) messages remaining
      (Poll.andThen ws.pollStreaming fun frame self => Handled next self frame) := by
  have outcome := Streaming.pollNextFrameWithLimit_open expects.reading expects.frames
    ws.fragmentLayer.remainingReadCapacity
  unfold WebSocket.pollStreaming
  generalize ws.streaming.pollNextFrameWithLimit ws.fragmentLayer.remainingReadCapacity = result
    at outcome ⊢
  cases outcome with
  | silent takes flushes nothing =>
    have quiet := (expects.pending takes).writes (.streaming flushes.reader)
    obtain ⟨answer, after⟩ := result
    cases answer with
    | pending => exact .nothing (by simp) quiet
    | ready value =>
      cases value with
      | error error => exact .nothing (by simp) quiet
      | ok frame => exact absurd rfl (nothing frame)
  | @accepted later raw received after takes taken =>
    cases control : raw.opcode.isControl with
    | true => exact Yields.control expects takes control taken
    | false =>
      obtain ⟨received', after', taken', yields⟩ := item expects further takes control
      rw [taken] at taken'
      simp only [Prod.mk.injEq, Except.ok.injEq] at taken'
      obtain ⟨rfl, rfl⟩ := taken'
      exact yields
  | @refused later raw error after takes taken =>
    cases control : raw.opcode.isControl with
    | true =>
      have outcome := Streaming.onFrame_outcome
        { ws.streaming with stream := later, readHalf := (ws.streaming.readHalf.receive raw).2 }
        (ws.streaming.readHalf.receive raw).1 ws.fragmentLayer.remainingReadCapacity
      rw [taken] at outcome
      cases outcome with
      | badClose opcode _ =>
        have close : raw.opcode = .close := opcode
        obtain ⟨-, ends⟩ := expects.arrives takes
        rw [finished_close close] at ends
        subst ends
        exact .closed (by simp) rfl
      | data data _ =>
        have kind : raw.opcode.isControl = false := data
        simp [kind] at control
    | false =>
      obtain ⟨received', after', taken', -⟩ := item expects further takes control
      rw [taken] at taken'
      simp at taken'

/-- A read of an open connection takes at least one arrival up. -/
theorem readLoop (fuel : Nat) (expects : Expects codec limits messages remaining bound ws) :
    Yields codec limits (bound - 1) messages remaining (ws.readLoop (fuel + 1)) := by
  induction fuel generalizing messages remaining bound ws with
  | zero =>
    rw [WebSocket.readLoop]
    exact round expects fun later => .nothing (by simp [WebSocket.readLoop]) later
  | succ fuel ih =>
    rw [WebSocket.readLoop]
    exact round expects fun later => (ih later).mono (Nat.sub_le ..)

end Yields

/-- A receiver that has delivered the first messages and expects the others, as far as
they end before a Close. -/
def Gets (codec : Restoration) (limits : Limits) (messages : List Frame) (expected bound : Nat)
    (delivered : List Frame) (ws : WebSocket) : Prop :=
  ∃ done later, messages = done ++ later ∧
    (dataFrames delivered).map Frame.content = done.map Frame.content ∧
    (ws.streaming.readHalf.isClosed ∧ done.length = expected ∨
      ∃ remaining, done.length + remaining = expected ∧
        Expects codec limits later remaining bound ws)

namespace Gets

variable {delivered : List Frame} {expected : Nat}

private theorem pollNextFrame (gets : Gets codec limits messages expected bound delivered ws) :
    Gets codec limits messages expected (bound - 1)
      (delivered ++ (Answer.read ws.pollNextFrame.1).delivered.toList) ws.pollNextFrame.2 := by
  obtain ⟨done, later, split, same, ⟨closed, count⟩ | ⟨remaining, count, expects⟩⟩ := gets
  · obtain ⟨reader, answer⟩ := WebSocket.pollNextFrame_closed closed
    have nothing : ∀ frame, ws.pollNextFrame.1 ≠ .ready (.ok frame) := by
      rcases answer with answer | ⟨answer, -⟩ | ⟨_, answer, -⟩ <;> simp [answer]
    refine ⟨done, later, split, ?_, .inl ⟨reader.readHalf ▸ closed, count⟩⟩
    rw [Receives.dataFrames_control fun frame found => absurd found (nothing frame), same]
  · have yields := Yields.readLoop ws.streaming.stream.incoming.length expects
    unfold WebSocket.pollNextFrame
    generalize ws.readLoop (ws.streaming.stream.incoming.length + 1) = result at yields ⊢
    cases yields with
    | nothing control expects =>
      exact ⟨done, later, split, by rw [Receives.dataFrames_control control, same],
        .inr ⟨remaining, count, expects⟩⟩
    | closed control closed =>
      exact ⟨done, later, split, by rw [Receives.dataFrames_control control, same],
        .inl ⟨closed, count⟩⟩
    | @message others remaining message frame after content further =>
      have data : frame.opcode.isControl = false := by
        have opcode : frame.opcode = message.opcode := congrArg (·.2.1) content
        rcases (expects.allowed message (by simp)).1.data with text | binary
        · simp [opcode, text, OpCode.isControl]
        · simp [opcode, binary, OpCode.isControl]
      refine ⟨done ++ [message], others, by simp [split], ?_, .inr ⟨remaining, ?_, further⟩⟩
      · rw [List.map_append, ← same]
        simp [Answer.delivered, dataFrames, data, content]
      · rw [List.length_append, List.length_singleton]
        omega

/-- Whatever the receiver's user calls, messages are only delivered in order. -/
theorem step (gets : Gets codec limits messages expected bound delivered ws) {call : Call}
    {answer : Answer} {next : WebSocket} (taken : ws.step call = some (answer, next)) :
    Gets codec limits messages expected (bound - reads [call])
      (delivered ++ answer.delivered.toList) next := by
  by_cases reading : call = .pollNextFrame
  · subst reading
    simp only [WebSocket.step, Option.some.injEq, Prod.mk.injEq] at taken
    obtain ⟨rfl, rfl⟩ := taken
    exact gets.pollNextFrame
  · have writes := WebSocket.step_writes reading taken
    have silent := Receives.step_silent reading taken
    obtain ⟨done, later, split, same, state⟩ := gets
    have none : reads [call] = 0 := by simp [reads, reading]
    refine ⟨done, later, split, by simpa [silent] using same, ?_⟩
    rw [none, Nat.sub_zero]
    rcases state with ⟨closed, count⟩ | ⟨remaining, count, expects⟩
    · exact .inl ⟨writes.reader.readHalf ▸ closed, count⟩
    · exact .inr ⟨remaining, count, expects.writes writes⟩

theorem run {trace : List (Call × Answer)} {final : WebSocket}
    (run : Trace.Run WebSocket.step (fun _ _ => True) ws trace final)
    (gets : Gets codec limits messages expected bound delivered ws) :
    Gets codec limits messages expected (bound - reads (trace.map Prod.fst))
      (delivered ++ trace.filterMap (·.2.delivered)) final := by
  induction run generalizing bound delivered with
  | nil => simpa [reads] using gets
  | @cons state call answer middle trace final _ taken _ ih =>
    have later := ih (gets.step taken)
    have count : bound - reads [call] - reads (trace.map Prod.fst) =
        bound - reads (call :: trace.map Prod.fst) := by
      simp only [reads, List.count_cons, List.count_nil]
      omega
    rw [List.map_cons, ← count]
    cases shown : answer.delivered with
    | none => simpa [shown] using later
    | some frame => simpa [shown] using later

/-- At the end everything has arrived that ends before a Close. -/
theorem finish (gets : Gets codec limits messages expected 0 delivered ws) :
    (dataFrames delivered).map Frame.content = (messages.take expected).map Frame.content := by
  obtain ⟨done, later, rfl, same, ⟨_, count⟩ | ⟨remaining, count, expects⟩⟩ := gets
  · rw [same, ← count, List.take_left]
  · have empty : ws.streaming.stream.incoming = [] :=
      List.eq_nil_of_length_eq_zero (Nat.le_zero.mp expects.within)
    have none : remaining = 0 := by
      rw [← expects.ends, empty]
      rfl
    rw [same, ← count, none, Nat.add_zero, List.take_left]

end Gets

end Receiving

end Yawc
