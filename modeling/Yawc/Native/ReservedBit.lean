import Yawc.Native.LegalReplies

/-! The first reserved bit on what is read: which frames may carry it, and which
frames of a message are inflated. -/

namespace Yawc

namespace Frame

/-- Whether the message that is open behind a frame began with the bit set. -/
def keepsOpen (opened : Bool) (frame : Frame) : Bool :=
  match frame.opcode with
  | .text | .binary => if frame.fin then opened else frame.isCompressed
  | .continuation => opened && !frame.fin
  | _ => opened

/-- Whether a frame belongs to a compressed message. -/
def inflates (opened : Bool) (frame : Frame) : Bool :=
  match frame.opcode with
  | .text | .binary => frame.isCompressed
  | .continuation => opened
  | _ => false

/-- The bit is where it may be: not on control frames, not on fragments behind the
first, and on any message that begins while a compressed one is open. -/
def tidy (negotiated opened : Bool) (frame : Frame) : Bool :=
  match frame.opcode with
  | .text | .binary => frame.isCompressed || !opened
  | .continuation => !frame.isCompressed || !negotiated
  | _ => !frame.isCompressed

end Frame

/-- Whether the message that is open behind the frames began with the bit set. -/
def compressedOpen (frames : List Frame) : Bool := frames.foldl Frame.keepsOpen false

/-- The bit is where it may be on all the frames. -/
def Tidy (negotiated : Bool) (frames : List Frame) : Prop :=
  ∀ before frame later, frames = before ++ frame :: later →
    Frame.tidy negotiated (compressedOpen before) frame

theorem Tidy.of_prefix {negotiated : Bool} {frames more : List Frame}
    (tidy : Tidy negotiated (frames ++ more)) : Tidy negotiated frames := by
  intro before frame later split
  exact tidy before frame (later ++ more) (by simp [split])

private theorem Tidy.nil (negotiated : Bool) : Tidy negotiated [] := by simp [Tidy]

private theorem Tidy.snoc {negotiated : Bool} {frames : List Frame} {frame : Frame}
    (tidy : Tidy negotiated frames) (next : frame.tidy negotiated (compressedOpen frames)) :
    Tidy negotiated (frames ++ [frame]) := by
  intro before other later split
  rcases List.eq_nil_or_concat later with rfl | ⟨middle, last, rfl⟩
  · obtain ⟨rfl, same⟩ := List.append_inj' split rfl
    simp only [List.cons.injEq, and_true] at same
    exact same ▸ next
  · have whole : frames ++ [frame] = (before ++ other :: middle) ++ [last] := by simp [split]
    exact tidy before other middle (List.append_inj' whole rfl).1

/-- A frame is read as its place in the message demands. -/
structure ReadsAs (negotiated opened : Bool) (raw frame : Frame)
    (before after : Option Decompressor) : Prop where
  reserved : raw.isCompressed → (raw.opcode = .text ∨ raw.opcode = .binary) ∧ negotiated
  inflated : raw.inflates opened → ∃ inflate limit next, before = some inflate ∧
    after = some next ∧ inflate.decompress raw.payload raw.fin limit = (.ok frame.payload, next)
  plain : raw.inflates opened = false → after = before ∧ frame.payload = raw.payload
  cleared : frame.isCompressed = false

namespace Streaming

/-- What becomes of an accepted data frame. -/
theorem onData_cases {self after : Streaming} {frame received : Frame} {maxReadBuffer : Nat}
    (taken : self.onData frame maxReadBuffer = (.ok received, after)) :
    (frame.isCompressed = false ∧ received = frame ∧ after.inflate = self.inflate) ∨
    ∃ inflate limit payload next, frame.isCompressed ∧ self.inflate = some inflate ∧
      inflate.decompress frame.payload frame.fin limit = (.ok payload, next) ∧
      received = { frame with payload, isCompressed := false } ∧ after.inflate = some next := by
  unfold onData inflateFrame at taken
  dsimp only at taken
  cases compressed : frame.isCompressed with
  | false =>
    simp only [compressed, Bool.false_eq_true, ↓reduceIte] at taken
    split at taken
    · simp at taken
    · simp only [Prod.mk.injEq, Except.ok.injEq] at taken
      exact .inl ⟨rfl, taken.1.symm, by rw [← taken.2]⟩
  | true =>
    simp only [compressed, ↓reduceIte] at taken
    cases found : self.inflate with
    | none => simp [found] at taken
    | some inflate =>
      simp only [found] at taken
      rcases called : inflate.decompress frame.payload frame.fin
        (self.maxOutputSize frame maxReadBuffer) with ⟨error | payload, next⟩
      · simp [called, Except.map] at taken
      · simp only [called, Except.map] at taken
        split at taken
        · simp at taken
        · simp only [Prod.mk.injEq, Except.ok.injEq] at taken
          exact .inr ⟨inflate, _, payload, next, rfl, rfl, called, taken.1.symm,
            by rw [← taken.2]⟩

/-- Every call on a decompressor is remembered. -/
theorem decompress_changes {inflate next : Decompressor} {input : Bytes} {streamEnd : Bool}
    {limit : Nat} {result : Result Bytes}
    (called : inflate.decompress input streamEnd limit = (result, next)) : next ≠ inflate := by
  simp only [Decompressor.decompress, Prod.mk.injEq] at called
  obtain ⟨-, rfl⟩ := called
  intro same
  have calls := congrArg Decompressor.calls same
  simp at calls

end Streaming

namespace ReadsAs

variable {negotiated opened : Bool} {raw frame : Frame}

/-- A control frame is passed on as it came. -/
theorem control_iff {inflate : Option Decompressor} (control : raw.opcode.isControl)
    (flag : frame.isCompressed = raw.isCompressed) (payload : frame.payload = raw.payload) :
    ReadsAs negotiated opened raw frame inflate inflate ↔ raw.tidy negotiated opened := by
  have inflates : raw.inflates opened = false := by
    cases opcode : raw.opcode <;> simp_all [Frame.inflates, OpCode.isControl]
  have tidy : raw.tidy negotiated opened = !raw.isCompressed := by
    cases opcode : raw.opcode <;> simp_all [Frame.tidy, OpCode.isControl]
  rw [tidy, ← flag]
  constructor
  · intro reads
    simp [reads.cleared]
  · intro clear
    have cleared : frame.isCompressed = false := by simpa using clear
    exact ⟨by simp [← flag, cleared], by simp [inflates], fun _ => ⟨rfl, payload⟩, cleared⟩

/-- A data frame outside a compressed message is passed on as it came. -/
theorem plain_iff {inflate : Option Decompressor} (data : raw.opcode.isControl = false)
    (clear : raw.isCompressed = false) (outside : opened = false)
    (flag : frame.isCompressed = false) (payload : frame.payload = raw.payload) :
    ReadsAs negotiated opened raw frame inflate inflate ↔ raw.tidy negotiated opened := by
  have inflates : raw.inflates opened = false := by
    cases opcode : raw.opcode <;> simp_all [Frame.inflates, OpCode.isControl]
  have tidy : raw.tidy negotiated opened := by
    cases opcode : raw.opcode <;> simp_all [Frame.tidy, OpCode.isControl]
  rw [tidy]
  exact ⟨fun _ => rfl, fun _ => ⟨by simp [clear], by simp [inflates], fun _ => ⟨rfl, payload⟩, flag⟩⟩

/-- A data frame that counts as compressed is inflated, even if it only counts as
such by mistake. -/
theorem inflated_iff {inflate next : Decompressor} {limit : Nat}
    (data : raw.opcode.isControl = false) (counts : raw.isCompressed || opened)
    (called : inflate.decompress raw.payload raw.fin limit = (.ok frame.payload, next))
    (flag : frame.isCompressed = false) :
    ReadsAs true opened raw frame (some inflate) (some next) ↔ raw.tidy true opened := by
  have changed := Streaming.decompress_changes called
  have reads (belongs : raw.inflates opened)
      (reserved : raw.isCompressed → raw.opcode = .text ∨ raw.opcode = .binary) :
      ReadsAs true opened raw frame (some inflate) (some next) :=
    ⟨fun set => ⟨reserved set, rfl⟩, fun _ => ⟨inflate, limit, next, rfl, rfl, called⟩,
      by simp [belongs], flag⟩
  have begins (begins : raw.opcode = .text ∨ raw.opcode = .binary) :
      ReadsAs true opened raw frame (some inflate) (some next) ↔ raw.tidy true opened := by
    have inflates : raw.inflates opened = raw.isCompressed := by
      rcases begins with opcode | opcode <;> simp [Frame.inflates, opcode]
    have tidy : raw.tidy true opened = (raw.isCompressed || !opened) := by
      rcases begins with opcode | opcode <;> simp [Frame.tidy, opcode]
    cases clear : raw.isCompressed with
    | true =>
      rw [tidy, clear]
      exact ⟨fun _ => rfl, fun _ => reads (by rw [inflates, clear]) fun _ => begins⟩
    | false =>
      have inside : opened := by simpa [clear] using counts
      rw [tidy, clear]
      refine ⟨fun read => ?_, by simp [inside]⟩
      have same := (read.plain (by rw [inflates, clear])).1
      exact absurd (Option.some.inj same) changed
  cases opcode : raw.opcode with
  | text => exact begins (.inl opcode)
  | binary => exact begins (.inr opcode)
  | continuation =>
    have inflates : raw.inflates opened = opened := by simp [Frame.inflates, opcode]
    have tidy : raw.tidy true opened = !raw.isCompressed := by simp [Frame.tidy, opcode]
    cases clear : raw.isCompressed with
    | true =>
      rw [tidy, clear]
      refine ⟨fun read => ?_, by simp⟩
      have first := (read.reserved clear).1
      simp [opcode] at first
    | false =>
      have inside : opened := by simpa [clear] using counts
      rw [tidy, clear]
      exact ⟨fun _ => rfl, fun _ => reads (by rw [inflates]; exact inside) (by simp [clear])⟩
  | close | ping | pong => simp [opcode, OpCode.isControl] at data

end ReadsAs

namespace Streaming

/-- An accepted frame is read as its place demands exactly if the bit is where it
may be. -/
theorem onFrame_readsAs {self after : Streaming} {raw received : Frame} {maxReadBuffer : Nat}
    {stream : Framed}
    (taken : Streaming.onFrame { self with stream, readHalf := (self.readHalf.receive raw).2 }
      (self.readHalf.receive raw).1 maxReadBuffer = (.ok received, after)) :
    ReadsAs self.inflate.isSome self.readHalf.compressedStream raw received self.inflate
        after.inflate ↔
      raw.tidy self.inflate.isSome self.readHalf.compressedStream := by
  have outcome := Streaming.onFrame_outcome
    { self with stream, readHalf := (self.readHalf.receive raw).2 }
    (self.readHalf.receive raw).1 maxReadBuffer
  rw [taken] at outcome
  have control (opcode : raw.opcode.isControl) :
      (self.readHalf.receive raw).1.isCompressed = raw.isCompressed := by
    simp [ReadHalf.receive, opcode]
  cases outcome with
  | ping opcode =>
    have is : raw.opcode.isControl := by rw [show raw.opcode = .ping from opcode]; rfl
    exact ReadsAs.control_iff is (control is) rfl
  | pong opcode =>
    have is : raw.opcode.isControl := by rw [show raw.opcode = .pong from opcode]; rfl
    exact ReadsAs.control_iff is (control is) rfl
  | close opcode _ =>
    have is : raw.opcode.isControl := by rw [show raw.opcode = .close from opcode]; rfl
    exact ReadsAs.control_iff is (control is) rfl
  | data opcode data =>
    have is : raw.opcode.isControl = false := opcode
    have counts : (self.readHalf.receive raw).1.isCompressed =
        (raw.isCompressed || self.readHalf.compressedStream) := by
      simp [ReadHalf.receive, is]
    rcases onData_cases data with ⟨plain, rfl, same⟩ |
      ⟨inflate, limit, payload, next, compressed, found, called, rfl, same⟩
    · dsimp only at same
      rw [counts, Bool.or_eq_false_iff] at plain
      rw [same]
      exact ReadsAs.plain_iff is plain.1 plain.2 (counts.trans (by simp [plain])) rfl
    · dsimp only at same found
      rw [counts] at compressed
      rw [same, found]
      exact ReadsAs.inflated_iff is compressed called rfl

private theorem onData_negotiated (self : Streaming) (frame : Frame) (maxReadBuffer : Nat) :
    (self.onData frame maxReadBuffer).2.inflate.isSome = self.inflate.isSome := by
  have inflated (limit : Nat) : (self.inflateFrame frame limit).2.inflate.isSome =
      self.inflate.isSome := by
    unfold inflateFrame
    split
    · split
      · rfl
      · rename_i found
        simp [found]
    · rfl
  have same := inflated (self.maxOutputSize frame maxReadBuffer)
  unfold onData
  dsimp only
  split
  · rename_i done
    rwa [done] at same
  · rename_i done
    rw [done] at same
    split <;> exact same

/-- A frame that is taken in changes neither whether there is an inflater nor what
the reader remembers of the message. -/
theorem onFrame_marks {self after : Streaming} {frame : Frame} {maxReadBuffer : Nat}
    {result : Result Frame} (taken : self.onFrame frame maxReadBuffer = (result, after)) :
    after.inflate.isSome = self.inflate.isSome ∧
      after.readHalf.compressedStream = self.readHalf.compressedStream := by
  have outcome := self.onFrame_outcome frame maxReadBuffer
  rw [taken] at outcome
  cases outcome with
  | ping _ => exact ⟨rfl, rfl⟩
  | pong _ => exact ⟨rfl, rfl⟩
  | close _ _ => exact ⟨rfl, rfl⟩
  | badClose _ _ => exact ⟨rfl, rfl⟩
  | data _ data =>
    have same := self.onData_negotiated frame maxReadBuffer
    rw [data] at same
    exact ⟨same, rfl⟩

end Streaming

private theorem compressedOpen_snoc (frames : List Frame) (frame : Frame) :
    compressedOpen (frames ++ [frame]) = frame.keepsOpen (compressedOpen frames) := by
  simp [compressedOpen]

/-- The reader remembers whether the open message began with the bit set. -/
theorem receive_keepsOpen {half : ReadHalf} {frame : Frame} {negotiated : Bool}
    (tidy : frame.tidy negotiated half.compressedStream) :
    (half.receive frame).2.compressedStream = frame.keepsOpen half.compressedStream := by
  cases opcode : frame.opcode with
  | text | binary =>
    simp only [Frame.tidy, opcode, Bool.or_eq_true] at tidy
    cases fin : frame.fin <;> cases clear : frame.isCompressed <;>
      simp_all [ReadHalf.receive, Frame.keepsOpen]
  | continuation => simp [ReadHalf.receive, Frame.keepsOpen, opcode]
  | close | ping | pong => simp [ReadHalf.receive, Frame.keepsOpen, opcode]

/-- What the reader remembers after the arrivals `taken` up, as long as the bit was
where it may be. -/
structure Marked (incoming taken : List Arrival) (negotiated : Bool) (connection : Streaming) :
    Prop where
  arrived : incoming = taken ++ connection.stream.incoming
  inflater : connection.inflate.isSome = negotiated
  opened : Tidy negotiated (arriving taken) →
    connection.readHalf.compressedStream = compressedOpen (arriving taken)

namespace Marked

variable {incoming taken : List Arrival} {negotiated : Bool} {s after : Streaming}

theorem same (marked : Marked incoming taken negotiated s) (reader : s.SameReader after) :
    Marked incoming taken negotiated after where
  arrived := by rw [reader.stream.incoming]; exact marked.arrived
  inflater := by rw [reader.inflate]; exact marked.inflater
  opened := by rw [reader.readHalf]; exact marked.opened

/-- Taking up anything but a frame changes nothing. -/
theorem silent (marked : Marked incoming taken negotiated s) {later : Framed}
    {item : Poll (Option (Result Frame))} (takes : s.stream.Takes later item)
    (none : ∀ frame, item ≠ .ready (some (.ok frame))) (readHalf : ReadHalf)
    (same : readHalf.compressedStream = s.readHalf.compressedStream) :
    ∃ taken, Marked incoming taken negotiated { s with stream := later, readHalf } := by
  obtain ⟨grown, arrived, frames, -⟩ := takes.grown marked.arrived
  have unchanged : arriving grown = arriving taken := by
    rw [frames]
    split
    · exact absurd rfl (none _)
    · simp
  exact ⟨grown, arrived, marked.inflater, by rw [unchanged, same]; exact marked.opened⟩

/-- A frame that is taken in is remembered. -/
theorem reads (marked : Marked incoming taken negotiated s) {later : Framed} {raw : Frame}
    (takes : s.stream.Takes later (.ready (some (.ok raw)))) {result : Result Frame}
    {maxReadBuffer : Nat}
    (done : Streaming.onFrame { s with stream := later, readHalf := (s.readHalf.receive raw).2 }
      (s.readHalf.receive raw).1 maxReadBuffer = (result, after)) :
    ∃ taken, Marked incoming taken negotiated after := by
  obtain ⟨grown, arrived, frames, -⟩ := takes.grown marked.arrived
  obtain ⟨inflater, half⟩ := Streaming.onFrame_marks done
  have stream := Streaming.onFrame_stream done
  dsimp only at frames
  refine ⟨grown, by rw [stream]; exact arrived, inflater.trans marked.inflater, ?_⟩
  rw [frames]
  intro tidy
  have before := marked.opened tidy.of_prefix
  have now := tidy (arriving taken) raw [] rfl
  rw [half, compressedOpen_snoc, ← before]
  rw [← before] at now
  exact receive_keepsOpen now

theorem pollNextFrameWithLimit (marked : Marked incoming taken negotiated s) (maxReadBuffer : Nat) :
    ∃ taken, Marked incoming taken negotiated (s.pollNextFrameWithLimit maxReadBuffer).2 := by
  have step := s.pollNextFrameWithLimit_step maxReadBuffer
  generalize s.pollNextFrameWithLimit maxReadBuffer = result at step ⊢
  cases step with
  | closed _ => exact ⟨taken, marked.same (s.silent_flushes (.inr rfl)).1.reader⟩
  | silent _ takes =>
    obtain ⟨taken, kept⟩ := marked.silent takes (by simp) s.readHalf rfl
    exact ⟨taken, kept.same (Streaming.silent_flushes _ (.inl rfl)).1.reader⟩
  | ended _ takes =>
    obtain ⟨taken, kept⟩ := marked.silent takes (by simp) { s.readHalf with isClosed := true } rfl
    exact ⟨taken, kept.same (Streaming.silent_flushes _ (.inr rfl)).1.reader⟩
  | failed _ takes _ =>
    obtain ⟨taken, kept⟩ := marked.silent takes (by simp) s.readHalf rfl
    exact ⟨taken, { kept with }⟩
  | accepted _ takes done => exact marked.reads takes done
  | refused _ takes done _ =>
    obtain ⟨taken, kept⟩ := marked.reads takes done
    exact ⟨taken, { kept with }⟩

/-- What a read returns comes from the next frame, and is as its place demands
exactly if the bit is where it may be on that frame. -/
theorem readsAs (marked : Marked incoming taken negotiated s) {frame : Frame} {maxReadBuffer : Nat}
    (tidy : Tidy negotiated (arriving taken))
    (read : s.pollNextFrameWithLimit maxReadBuffer = (.ready (.ok frame), after)) :
    ∃ skipped arrival raw, s.stream.incoming = skipped ++ arrival :: after.stream.incoming ∧
      (∀ arrival ∈ skipped, arrival.item = .pending) ∧ arrival.item = .ready (some (.ok raw)) ∧
      (ReadsAs negotiated (compressedOpen (arriving taken)) raw frame s.inflate after.inflate ↔
        raw.tidy negotiated (compressedOpen (arriving taken))) := by
  obtain ⟨raw, later, -, takes, done⟩ := Streaming.pollNextFrameWithLimit_ok read
  have stream := Streaming.onFrame_stream done
  have reads := Streaming.onFrame_readsAs done
  rw [marked.inflater, marked.opened tidy] at reads
  obtain ⟨skipped, pending, arrival, item, split, -⟩ := takes.taken
  exact ⟨skipped, arrival, raw, by rw [stream]; exact split, pending, item, reads⟩

/-- Where the bit is where it may be on everything that arrives, it is cleared on
what is read. -/
theorem cleared (marked : Marked incoming taken negotiated s) {frame : Frame} {maxReadBuffer : Nat}
    (tidy : Tidy negotiated (arriving incoming))
    (read : s.pollNextFrameWithLimit maxReadBuffer = (.ready (.ok frame), after)) :
    frame.isCompressed = false := by
  have frames : arriving incoming = arriving taken ++ arriving s.stream.incoming := by
    rw [marked.arrived, arriving, List.filterMap_append, ← arriving, ← arriving]
  rw [frames] at tidy
  obtain ⟨skipped, arrival, raw, split, pending, item, reads⟩ := marked.readsAs tidy.of_prefix read
  have next : arriving s.stream.incoming = raw :: arriving after.stream.incoming := by
    rw [split, Framed.Takes.arriving_skipped pending]
    simp [arriving, item]
  exact (reads.mpr (tidy (arriving taken) raw _ (by rw [next]))).cleared

end Marked

/-- The open message, once inflated, carries no bit. -/
def FragmentLayer.Clear (self : FragmentLayer) : Prop :=
  ∀ fragment, self.incomingFragment = some fragment → fragment.isCompressed = false

namespace WebSocket

variable {self middle after : WebSocket}

/-- Assembly of frames without the bit makes messages without it. -/
theorem assembleIncoming_clear {layer : FragmentLayer} {frame : Frame} (clear : layer.Clear)
    (plain : frame.isCompressed = false) (now : Nat) :
    (layer.assembleIncoming frame now).2.Clear ∧
      ∀ message, (layer.assembleIncoming frame now).1 = .ok (some message) →
        message.isCompressed = false := by
  have assembles := layer.assembleIncoming_assembles frame now
  generalize layer.assembleIncoming frame now = result at assembles ⊢
  obtain ⟨answer, next⟩ := result
  dsimp only at assembles ⊢
  cases assembles with
  | control _ | whole _ _ _ =>
    refine ⟨clear, fun message same => ?_⟩
    simp only [Except.ok.injEq, Option.some.injEq] at same
    exact same ▸ plain
  | stray _ _ => exact ⟨clear, by simp⟩
  | first _ _ _ =>
    refine ⟨fun fragment same => ?_, by simp⟩
    simp only [Option.some.injEq] at same
    exact same ▸ plain
  | @next fragment _ _ _ opened taken =>
    have before := clear fragment opened
    have continues := layer.continueMessage_continues fragment frame now
    rw [taken] at continues
    dsimp only at continues
    cases continues with
    | tooLarge _ | late _ _ => exact ⟨by simp [FragmentLayer.Clear], by simp⟩
    | last _ _ _ =>
      refine ⟨by simp [FragmentLayer.Clear], fun message same => ?_⟩
      simp only [Except.ok.injEq, Option.some.injEq] at same
      exact same ▸ before
    | more _ _ _ =>
      refine ⟨fun other same => ?_, by simp⟩
      simp only [Option.some.injEq] at same
      exact same ▸ before

/-- Where a message-level connection stands, with nothing marked that it holds. -/
def Unmarked (incoming : List Arrival) (negotiated : Bool) (self : WebSocket) : Prop :=
  (∃ taken, Marked incoming taken negotiated self.streaming) ∧ self.fragmentLayer.Clear

variable {incoming : List Arrival} {negotiated : Bool}

/-- One round keeps to frames without the bit. -/
theorem Unmarked.round (unmarked : self.Unmarked incoming negotiated)
    (tidy : Tidy negotiated (arriving incoming)) {frame : Frame} {result : Result (Option Frame)}
    (polled : self.pollStreaming = (.ready (.ok frame), middle))
    (taken : middle.onFrame frame = (result, after)) :
    after.Unmarked incoming negotiated ∧
      ∀ message, result = .ok (some message) → message.isCompressed = false := by
  obtain ⟨⟨arrivals, marked⟩, clear⟩ := unmarked
  obtain ⟨streaming, rfl, read⟩ := pollStreaming_eq polled
  have plain := marked.cleared tidy read
  have kept := marked.pollNextFrameWithLimit self.fragmentLayer.remainingReadCapacity
  rw [read] at kept
  obtain ⟨cleared, whole⟩ := assembleIncoming_clear clear plain streaming.stream.clock
  have same := onFrame_streaming { self with streaming } frame
  have layer := onFrame_fragmentLayer { self with streaming } frame
  rw [taken] at same layer
  dsimp only at same layer
  refine ⟨⟨by rw [same]; exact kept, by rw [layer]; exact cleared⟩, fun message delivered => ?_⟩
  rcases onFrame_result taken with assembled | refused
  · exact whole message (assembled.trans delivered)
  · simp [refused] at delivered

theorem Unmarked.rounds (tidy : Tidy negotiated (arriving incoming))
    {result : Poll (Result Frame) × WebSocket} (rounds : self.Rounds result)
    (unmarked : self.Unmarked incoming negotiated) :
    result.2.Unmarked incoming negotiated ∧
      ∀ message, result.1 = .ready (.ok message) → message.isCompressed = false := by
  induction rounds with
  | @stop before _ _ polled nothing =>
    obtain ⟨⟨arrivals, marked⟩, clear⟩ := unmarked
    obtain ⟨streaming, rfl, read⟩ := pollStreaming_eq polled
    have kept := marked.pollNextFrameWithLimit before.fragmentLayer.remainingReadCapacity
    rw [read] at kept
    exact ⟨⟨kept, clear⟩, fun message same => absurd same (nothing message)⟩
  | refuse polled taken => exact ⟨(unmarked.round tidy polled taken).1, by simp⟩
  | deliver polled taken =>
    obtain ⟨kept, plain⟩ := unmarked.round tidy polled taken
    refine ⟨kept, fun message same => ?_⟩
    simp only [Poll.ready.injEq, Except.ok.injEq] at same
    exact plain message (by rw [same])
  | again polled taken _ ih => exact ih (unmarked.round tidy polled taken).1

private theorem Unmarked.step (tidy : Tidy negotiated (arriving incoming)) {call : Call}
    {answer : Answer}
    (taken : self.step call = some (answer, after)) (unmarked : self.Unmarked incoming negotiated) :
    after.Unmarked incoming negotiated := by
  by_cases reading : call = .pollNextFrame
  · subst reading
    simp only [WebSocket.step, Option.some.injEq, Prod.mk.injEq] at taken
    obtain ⟨-, rfl⟩ := taken
    exact (unmarked.rounds tidy self.pollNextFrame_rounds).1
  · obtain ⟨⟨arrivals, marked⟩, clear⟩ := unmarked
    have writes := step_writes reading taken
    obtain ⟨outgoing, layer⟩ := writes.layer
    exact ⟨⟨arrivals, marked.same writes.reader⟩, by rw [layer]; exact clear⟩

end WebSocket

section

variable (flate : Flate) (opts : Negotiation) (incoming : List Arrival) (replies : List Reply)
  (clock : Nat)

private theorem Marked.new :
    Marked incoming [] opts.compression.isSome
      (.new flate (.new incoming replies clock) opts) where
  arrived := rfl
  inflater := by simp [Streaming.new]
  opened := fun _ => rfl

/-- In every run, as long as the first reserved bit was where it may be on the
frames read so far, the next frame is read as its place demands exactly if this
goes for it too. Where it goes for everything that arrives, no message carries the
bit either. -/
theorem reserved_bit :
    (∀ trace final,
      Trace.Run (fun (connection : Streaming) call => some (connection.step call))
        (fun _ _ => True) (.new flate (.new incoming replies clock) opts) trace final →
      ∃ taken, incoming = taken ++ final.stream.incoming ∧
        (Tidy opts.compression.isSome (arriving taken) →
          ∀ frame next, final.pollNextFrame = (.ready (.ok frame), next) →
          ∃ skipped arrival raw,
            final.stream.incoming = skipped ++ arrival :: next.stream.incoming ∧
            (∀ arrival ∈ skipped, arrival.item = .pending) ∧
            arrival.item = .ready (some (.ok raw)) ∧
            (ReadsAs opts.compression.isSome (compressedOpen (arriving taken)) raw frame
                final.inflate next.inflate ↔
              raw.tidy opts.compression.isSome (compressedOpen (arriving taken))))) ∧
    (Tidy opts.compression.isSome (arriving incoming) → ∀ trace final,
      Trace.Run WebSocket.step (fun _ _ => True) (.new flate (.new incoming replies clock) opts)
        trace final →
      ∀ message next, final.pollNextFrame = (.ready (.ok message), next) →
        message.isCompressed = false) := by
  have fresh := Marked.new flate opts incoming replies clock
  constructor
  · intro trace final run
    obtain ⟨taken, marked⟩ : ∃ taken, Marked incoming taken opts.compression.isSome final := by
      refine run.keeps
        (motive := fun state => ∃ taken, Marked incoming taken opts.compression.isSome state) ?_
        ⟨[], fresh⟩
      intro state call answer next _ taken marked
      have kept := Streaming.step_keeps
        (motive := fun state => ∃ taken, Marked incoming taken opts.compression.isSome state)
        (fun _ limit kept => kept.elim fun _ marked => marked.pollNextFrameWithLimit limit)
        (fun reader kept => kept.imp fun _ marked => marked.same reader) marked call
      simp only [Option.some.injEq] at taken
      rwa [taken] at kept
    exact ⟨taken, marked.arrived, fun tidy frame next read => marked.readsAs tidy read⟩
  · intro tidy trace final run message next read
    have unmarked : final.Unmarked incoming opts.compression.isSome := by
      refine run.keeps (motive := WebSocket.Unmarked incoming opts.compression.isSome) ?_
        ⟨⟨[], fresh⟩, by simp [FragmentLayer.Clear, WebSocket.new, FragmentLayer.new]⟩
      intro state call answer next _ taken unmarked
      exact unmarked.step tidy taken
    have rounds := final.pollNextFrame_rounds
    rw [read] at rounds
    exact (unmarked.rounds tidy rounds).2 message rfl

end

/-- What default options with compression come to. -/
def Negotiation.deflating : Negotiation :=
  { Negotiation.plain with
    compression := some ⟨6, ⟨false, none⟩, ⟨false, none⟩⟩ }

/-- The first fragment of a compressed message, and its last. -/
def compressedText : List Arrival :=
  [.at 0 { Frame.text [104] with fin := false, isCompressed := true }, .at 0 (.continuation [105])]

/-- The second fragment of a compressed message is inflated like the first. -/
theorem reserved_bit_fragment :
    ∃ final next,
      Trace.Run (fun (connection : Streaming) call => some (connection.step call))
        (fun _ _ => True) (.new .stored (.new compressedText [] 0) .deflating)
        [(.pollNextFrame, .read (.ready (.ok { Frame.text [104] with fin := false })))] final ∧
      final.pollNextFrame = (.ready (.ok (.continuation [105])), next) ∧
      ReadsAs true true (.continuation [105]) (.continuation [105]) final.inflate next.inflate := by
  have run : ∃ final next,
      Trace.Run (fun (connection : Streaming) call => some (connection.step call))
        (fun _ _ => True) (.new .stored (.new compressedText [] 0) .deflating)
        [(.pollNextFrame, .read (.ready (.ok { Frame.text [104] with fin := false })))] final ∧
      final.pollNextFrame = (.ready (.ok (.continuation [105])), next) ∧
      final.stream.incoming = [.at 0 (.continuation [105])] :=
    ⟨_, _, .of_exec [.pollNextFrame] rfl, rfl, rfl⟩
  obtain ⟨final, next, run, read, rest⟩ := run
  obtain ⟨taken, arrived, reads⟩ := (reserved_bit .stored .deflating compressedText [] 0).1 _ _ run
  rw [rest] at arrived
  have first : taken = compressedText.take 1 :=
    List.append_cancel_right (show taken ++ _ = compressedText.take 1 ++ _ from arrived.symm)
  have tidy : Tidy true (arriving taken) := by
    rw [first]
    exact (Tidy.nil true).snoc rfl
  obtain ⟨skipped, arrival, raw, split, pending, item, demanded⟩ := reads tidy _ next read
  rw [rest] at split
  cases skipped with
  | nil =>
    simp only [List.nil_append, List.cons.injEq] at split
    obtain ⟨rfl, -⟩ := split
    simp only [Arrival.at, Poll.ready.injEq, Option.some.injEq, Except.ok.injEq] at item
    subst item
    rw [first] at demanded
    exact ⟨final, next, run, read, demanded.mpr rfl⟩
  | cons other skipped =>
    simp only [List.cons_append, List.cons.injEq] at split
    simpa [← split.1, Arrival.at] using pending other (by simp)

/-- A Ping is accepted with the bit set, which stays set, and a fragment with it is
inflated though its message is not compressed. -/
theorem reserved_bit_misplaced :
    (FromWire .scalar .client Negotiation.plain.maxPayloadRead [[0xC9, 1, 7]]
        [.at 0 { Frame.ping [7] with isCompressed := true }] ∧
      ∃ next,
        (Streaming.new .stored (.new [.at 0 { Frame.ping [7] with isCompressed := true }] [] 0)
          .plain).pollNextFrame =
          (.ready (.ok { Frame.ping [7] with isCompressed := true }), next)) ∧
    ∃ final next,
      Trace.Run (fun (connection : Streaming) call => some (connection.step call))
        (fun _ _ => True)
        (.new .stored
          (.new [.at 0 ((Frame.text [104]).withFin false),
            .at 0 { Frame.continuation [105] with isCompressed := true }] [] 0) .deflating)
        [(.pollNextFrame, .read (.ready (.ok ((Frame.text [104]).withFin false))))] final ∧
      final.pollNextFrame = (.ready (.ok (.continuation [105])), next) ∧
      (final.inflate.map (·.calls)) = some [] ∧
      (next.inflate.map (·.calls)) = some [([105], true, 1048576)] :=
  ⟨⟨⟨by decide, by simp [Arrival.at]⟩, _, rfl⟩,
    _, _, .of_exec [.pollNextFrame] rfl, rfl, rfl, rfl⟩

end Yawc
