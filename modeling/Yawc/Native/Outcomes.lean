import Yawc.Native.Effects

/-! What a read can do to a connection, once for all later proofs. -/

namespace Yawc

/-- What polls of the stream can do: pass over pending ones, and take the item
they yield. -/
structure Framed.Takes (before after : Framed) (item : Poll (Option (Result Frame))) : Prop where
  replies : after.replies = before.replies
  log : after.log = before.log
  taken : ∃ skipped : List Arrival, (∀ arrival ∈ skipped, arrival.item = .pending) ∧
    match item with
    | .pending => before.incoming = skipped ++ after.incoming
    | .ready value => ∃ arrival, arrival.item = .ready value ∧
        before.incoming = skipped ++ arrival :: after.incoming ∧ after.clock = arrival.time
  shorter : before.incoming = [] ∨ after.incoming.length < before.incoming.length

theorem Framed.Takes.suffix {before after : Framed} {item : Poll (Option (Result Frame))}
    (takes : before.Takes after item) : after.incoming <:+ before.incoming := by
  obtain ⟨skipped, _, split⟩ := takes.taken
  cases item with
  | pending => exact ⟨skipped, split.symm⟩
  | ready value =>
    obtain ⟨arrival, _, found, _⟩ := split
    exact ⟨skipped ++ [arrival], by simp [found]⟩

/-- Polls take a bounded number of arrivals up. -/
theorem Framed.Takes.within {before after : Framed} {item : Poll (Option (Result Frame))}
    (takes : before.Takes after item) {bound : Nat} (le : before.incoming.length ≤ bound) :
    after.incoming.length ≤ bound - 1 := by
  rcases takes.shorter with empty | shorter
  · have none := takes.suffix.length_le
    simp only [empty, List.length_nil] at none
    omega
  · omega

private theorem Framed.pollNext_takes (self : Framed) :
    self.Takes self.pollNext.2 self.pollNext.1 := by
  unfold Framed.pollNext
  cases incoming : self.incoming with
  | nil => exact ⟨rfl, rfl, ⟨[], nofun, by simp [incoming]⟩, .inl incoming⟩
  | cons arrival rest =>
    refine ⟨rfl, rfl, ?_, .inr (by simp [incoming])⟩
    cases item : arrival.item with
    | pending => exact ⟨[arrival], by simp [item], by simp [item, incoming]⟩
    | ready value => exact ⟨[], nofun, by simp only [item]; exact ⟨arrival, item, incoming, rfl⟩⟩

private theorem Framed.Takes.trans {first second third : Framed}
    {item : Poll (Option (Result Frame))}
    (left : first.Takes second .pending) (right : second.Takes third item) :
    first.Takes third item := by
  have later := right.suffix.length_le
  obtain ⟨replies, log, ⟨early, earlyPending, split⟩, shorter⟩ := left
  obtain ⟨replies', log', ⟨late, latePending, rest⟩, _⟩ := right
  refine ⟨replies'.trans replies, log'.trans log, ⟨early ++ late, ?_, ?_⟩,
    shorter.imp_right (Nat.lt_of_le_of_lt later)⟩
  · intro arrival member
    rcases List.mem_append.mp member with before | after
    · exact earlyPending arrival before
    · exact latePending arrival after
  · cases item with
    | pending => simp_all
    | ready value =>
      obtain ⟨arrival, same, found, time⟩ := rest
      exact ⟨arrival, same, by simp_all, time⟩

theorem Framed.Takes.handed {before after : Framed} {item : Poll (Option (Result Frame))}
    (takes : before.Takes after item) : after.handed = before.handed := by
  rw [Framed.handed, takes.log, Framed.handed]

/-- The item the next read comes to. A pending poll is passed over, once, if bytes were
buffered before it. -/
def Framed.nextItem (self : Framed) : Poll (Option (Result Frame)) :=
  if self.hasBuffered then (Poll.again Framed.pollNext self).1 else self.pollNext.1

/-- The frames still to arrive. -/
def arriving (incoming : List Arrival) : List Frame :=
  incoming.filterMap fun arrival =>
    match arrival.item with
    | .ready (some (.ok frame)) => some frame
    | _ => none

/-- The transport neither fails nor ends. -/
def OnlyFrames (incoming : List Arrival) : Prop :=
  ∀ arrival ∈ incoming, arrival.item = .pending ∨ ∃ frame, arrival.item = .ready (some (.ok frame))

namespace Framed.Takes

theorem onlyFrames {before after : Framed} {item : Poll (Option (Result Frame))}
    (takes : before.Takes after item) (frames : OnlyFrames before.incoming) :
    OnlyFrames after.incoming :=
  fun arrival member => frames arrival (takes.suffix.subset member)

theorem arriving_skipped {skipped : List Arrival}
    (none : ∀ arrival ∈ skipped, arrival.item = .pending) (rest : List Arrival) :
    arriving (skipped ++ rest) = arriving rest := by
  have nothing : arriving skipped = [] := by
    simp only [arriving, List.filterMap_eq_nil_iff]
    intro arrival member
    simp [none arrival member]
  rw [arriving, List.filterMap_append, ← arriving, nothing, List.nil_append, ← arriving]

theorem arriving_pending {before after : Framed} (takes : before.Takes after .pending) :
    arriving before.incoming = arriving after.incoming := by
  obtain ⟨skipped, none, split⟩ := takes.taken
  rw [split, arriving_skipped none]

/-- What is taken is the next frame to arrive. -/
theorem arriving_ready {before after : Framed} {item : Option (Result Frame)}
    (takes : before.Takes after (.ready item)) (frames : OnlyFrames before.incoming) :
    ∃ frame, item = some (.ok frame) ∧
      arriving before.incoming = frame :: arriving after.incoming := by
  obtain ⟨skipped, none, arrival, same, split, -⟩ := takes.taken
  rcases frames arrival (by simp [split]) with pending | ⟨frame, found⟩
  · simp [same] at pending
  · simp only [same, Poll.ready.injEq] at found
    refine ⟨frame, found, ?_⟩
    rw [split, arriving_skipped none]
    simp [arriving, same, found]

end Framed.Takes

namespace Streaming

/-- What polling the reader can do. -/
inductive ReadOutcome (before : Streaming) : Poll (Result Frame) → Streaming → Prop where
  | closed (closed : before.readHalf.isClosed) :
      ReadOutcome before (.ready (.error .connectionClosed)) before
  | pending {later : Framed} (reading : before.readHalf.isClosed = false)
      (takes : before.stream.Takes later .pending) :
      ReadOutcome before .pending { before with stream := later }
  | ended {later : Framed} (reading : before.readHalf.isClosed = false)
      (takes : before.stream.Takes later (.ready none)) :
      ReadOutcome before (.ready (.error .connectionClosed))
        { before with stream := later, readHalf := { before.readHalf with isClosed := true } }
  | failed {later : Framed} {error : WebSocketError} (reading : before.readHalf.isClosed = false)
      (takes : before.stream.Takes later (.ready (some (.error error))))
      (cause : error ≠ .connectionClosed) :
      ReadOutcome before (.ready (.error error)) { before with stream := later }
  | received {later : Framed} {frame : Frame} (reading : before.readHalf.isClosed = false)
      (takes : before.stream.Takes later (.ready (some (.ok frame)))) :
      ReadOutcome before (.ready (.ok (before.readHalf.receive frame).1))
        { before with stream := later, readHalf := (before.readHalf.receive frame).2 }

private theorem pollFrame_outcome (self : Streaming) :
    ReadOutcome self self.pollFrame.1 self.pollFrame.2 := by
  cases closed : self.readHalf.isClosed with
  | true =>
    simp only [pollFrame, ReadHalf.pollFrame, closed, ↓reduceIte]
    exact .closed closed
  | false =>
    have takes := self.stream.pollNext_takes
    have cause : self.stream.pollNext.1 ≠ .ready (some (.error .connectionClosed)) := by
      unfold Framed.pollNext
      split
      · simp
      · rename_i arrival _ _
        exact arrival.notClosed
    simp only [pollFrame, ReadHalf.pollFrame, closed]
    revert takes cause
    match self.stream.pollNext with
    | (.pending, later) => exact fun takes _ => .pending closed takes
    | (.ready none, later) => exact fun takes _ => .ended closed takes
    | (.ready (some (.error error)), later) =>
      exact fun takes cause => .failed closed takes (by rintro rfl; exact cause rfl)
    | (.ready (some (.ok frame)), later) => exact fun takes _ => .received closed takes

/-- A poll behind a pending one has the outcome of one poll that passed over
more. -/
theorem ReadOutcome.behind {before after : Streaming} {polled : Poll (Result Frame)}
    {later : Framed} (reading : before.readHalf.isClosed = false)
    (takes : before.stream.Takes later .pending)
    (outcome : ReadOutcome { before with stream := later } polled after) :
    ReadOutcome before polled after := by
  cases outcome with
  | closed closed => simp [reading] at closed
  | pending _ takes' => exact .pending reading (takes.trans takes')
  | ended _ takes' => exact .ended reading (takes.trans takes')
  | failed _ takes' cause => exact .failed reading (takes.trans takes') cause
  | received _ takes' => exact .received reading (takes.trans takes')

theorem pollReader_outcome (self : Streaming) :
    ReadOutcome self self.pollReader.1 self.pollReader.2 := by
  unfold pollReader
  split
  · have first := self.pollFrame_outcome
    unfold Poll.again
    split
    · rename_i value next polled
      rwa [polled] at first
    · rename_i next polled
      rw [polled] at first
      have second := next.pollFrame_outcome
      cases first with
      | pending reading takes => exact second.behind reading takes
  · exact self.pollFrame_outcome

/-- A poll of the reader hands nothing on. -/
theorem ReadOutcome.handed {before after : Streaming} {polled : Poll (Result Frame)}
    (outcome : ReadOutcome before polled after) : after.handed = before.handed := by
  cases outcome with
  | closed _ => rfl
  | pending _ takes => exact takes.handed
  | ended _ takes => exact takes.handed
  | failed _ takes _ => exact takes.handed
  | received _ takes => exact takes.handed

/-- What a received frame can do. -/
inductive FrameOutcome (before : Streaming) (frame : Frame) (maxReadBuffer : Nat) :
    Result Frame → Streaming → Prop where
  | ping (opcode : frame.opcode = .ping) :
      FrameOutcome before frame maxReadBuffer (.ok frame) (before.onPing frame)
  | pong (opcode : frame.opcode = .pong) :
      FrameOutcome before frame maxReadBuffer (.ok frame) before
  | close (opcode : frame.opcode = .close) (valid : checkClose frame = .ok ()) :
      FrameOutcome before frame maxReadBuffer (.ok frame)
        (before.emitClose (.closeRaw frame.payload))
  | badClose {error : WebSocketError} (opcode : frame.opcode = .close)
      (invalid : checkClose frame = .error error) :
      FrameOutcome before frame maxReadBuffer (.error error) before
  | data {result : Result Frame} {inflate : Option Decompressor}
      (opcode : frame.opcode.isControl = false)
      (taken : before.onData frame maxReadBuffer = (result, { before with inflate })) :
      FrameOutcome before frame maxReadBuffer result { before with inflate }

private theorem inflateFrame_inflate (self : Streaming) (frame : Frame) (maxOutputSize : Nat) :
    ∃ inflate, (self.inflateFrame frame maxOutputSize).2 = { self with inflate } := by
  unfold inflateFrame
  split
  · split
    · exact ⟨self.inflate, rfl⟩
    · exact ⟨_, rfl⟩
  · exact ⟨self.inflate, rfl⟩

/-- A data frame only changes the decompressor. -/
theorem onData_inflate (self : Streaming) (frame : Frame) (maxReadBuffer : Nat) :
    ∃ inflate, (self.onData frame maxReadBuffer).2 = { self with inflate } := by
  obtain ⟨inflate, same⟩ :=
    self.inflateFrame_inflate frame (self.maxOutputSize frame maxReadBuffer)
  refine ⟨inflate, ?_⟩
  unfold onData
  dsimp only
  split
  · rename_i inflated
    rw [← same, inflated]
  · rename_i inflated
    split <;> rw [← same, inflated]

theorem onFrame_outcome (self : Streaming) (frame : Frame) (maxReadBuffer : Nat) :
    FrameOutcome self frame maxReadBuffer (self.onFrame frame maxReadBuffer).1
      (self.onFrame frame maxReadBuffer).2 := by
  have data (opcode : frame.opcode.isControl = false) :
      FrameOutcome self frame maxReadBuffer (self.onData frame maxReadBuffer).1
        (self.onData frame maxReadBuffer).2 := by
    obtain ⟨inflate, same⟩ := self.onData_inflate frame maxReadBuffer
    rw [same]
    exact .data opcode (by rw [← same])
  unfold onFrame
  cases opcode : frame.opcode with
  | continuation => exact data (by rw [opcode]; rfl)
  | text => exact data (by rw [opcode]; rfl)
  | binary => exact data (by rw [opcode]; rfl)
  | ping => exact .ping opcode
  | pong => exact .pong opcode
  | close =>
    simp only [onClose]
    cases checked : checkClose frame with
    | error error => exact .badClose opcode checked
    | ok _ => exact .close opcode checked

/-- What is wrong with a Close frame that is refused. -/
theorem checkClose_cases {frame : Frame} {error : WebSocketError}
    (invalid : checkClose frame = .error error) :
    error = .invalidCloseFrame ∨ error = .invalidUTF8 ∨ error = .invalidCloseCode := by
  unfold checkClose at invalid
  split at invalid
  · simp at invalid
  · exact .inl (Except.error.inj invalid).symm
  · split at invalid
    · rename_i reason
      obtain rfl := Except.error.inj invalid
      simp only [Frame.closeReason] at reason
      split at reason
      · simp at reason
      · split at reason
        · exact .inr (.inl (Except.error.inj reason).symm)
        · split at reason
          · simp at reason
          · exact .inr (.inl (Except.error.inj reason).symm)
    · split at invalid
      · simp at invalid
      · exact .inr (.inr (Except.error.inj invalid).symm)

private theorem checkClose_error {frame : Frame} {error : WebSocketError}
    (invalid : checkClose frame = .error error) : error ≠ .connectionClosed := by
  rcases checkClose_cases invalid with rfl | rfl | rfl
  · simp
  · simp
  · simp

private theorem decompress_error {self after : Decompressor} {input : Bytes} {streamEnd : Bool}
    {maxOutputSize : Nat} {error : WebSocketError}
    (failed : self.decompress input streamEnd maxOutputSize = (.error error, after)) :
    error ≠ .connectionClosed := by
  rintro rfl
  simp only [Decompressor.decompress, Prod.mk.injEq] at failed
  obtain ⟨failed, -⟩ := failed
  cases output : self.output self.calls input streamEnd maxOutputSize with
  | ok _ => simp [output, Except.mapError] at failed
  | error cause => cases cause <;> simp [output, Except.mapError, InflateError.toError] at failed

private theorem inflateFrame_error {self after : Streaming} {frame : Frame} {maxOutputSize : Nat}
    {error : WebSocketError} (failed : self.inflateFrame frame maxOutputSize = (.error error, after)) :
    error ≠ .connectionClosed := by
  unfold inflateFrame at failed
  split at failed
  · split at failed
    · simp only [Prod.mk.injEq, Except.error.injEq] at failed
      rw [← failed.1]
      nofun
    · rename_i inflate _
      match called : inflate.decompress frame.payload frame.fin maxOutputSize with
      | (.ok output, next) => simp [called, Except.map] at failed
      | (.error cause, next) =>
        simp only [called, Except.map, Prod.mk.injEq, Except.error.injEq] at failed
        rw [← failed.1]
        exact decompress_error called
  · simp at failed

private theorem onData_error {self after : Streaming} {frame : Frame} {maxReadBuffer : Nat}
    {error : WebSocketError} (refused : self.onData frame maxReadBuffer = (.error error, after)) :
    error ≠ .connectionClosed := by
  unfold onData at refused
  dsimp only at refused
  split at refused
  · rename_i inflated
    simp only [Prod.mk.injEq, Except.error.injEq] at refused
    rw [← refused.1]
    exact inflateFrame_error inflated
  · split at refused
    · simp only [Prod.mk.injEq, Except.error.injEq] at refused
      rw [← refused.1]
      nofun
    · simp at refused

private theorem inflateFrame_ok {self after : Streaming} {frame received : Frame}
    {maxOutputSize : Nat}
    (taken : self.inflateFrame frame maxOutputSize = (.ok received, after)) :
    received.opcode = frame.opcode ∧ received.fin = frame.fin ∧ received.mask = frame.mask := by
  unfold inflateFrame at taken
  split at taken
  · split at taken
    · simp at taken
    · rename_i inflate _
      match called : inflate.decompress frame.payload frame.fin maxOutputSize with
      | (.error cause, next) => simp [called, Except.map] at taken
      | (.ok output, next) =>
        simp only [called, Except.map, Prod.mk.injEq, Except.ok.injEq] at taken
        simp [← taken.1]
  · simp only [Prod.mk.injEq, Except.ok.injEq] at taken
    simp [← taken.1]

/-- An accepted data frame keeps within its bound. -/
theorem onData_ok {self after : Streaming} {frame received : Frame} {maxReadBuffer : Nat}
    (taken : self.onData frame maxReadBuffer = (.ok received, after)) :
    received.opcode = frame.opcode ∧ received.fin = frame.fin ∧ received.mask = frame.mask ∧
      received.payload.length < self.maxOutputSize frame maxReadBuffer := by
  unfold onData at taken
  dsimp only at taken
  split at taken
  · simp at taken
  · rename_i inflated
    obtain ⟨opcode, fin, mask⟩ := inflateFrame_ok inflated
    split at taken
    · simp at taken
    · rename_i within
      simp only [Prod.mk.injEq, Except.ok.injEq] at taken
      obtain ⟨rfl, -⟩ := taken
      exact ⟨opcode, fin, mask, Nat.lt_of_not_le within⟩

/-- A frame is never refused by reporting the end of the connection. -/
theorem onFrame_error {self after : Streaming} {frame : Frame} {maxReadBuffer : Nat}
    {error : WebSocketError} (refused : self.onFrame frame maxReadBuffer = (.error error, after)) :
    error ≠ .connectionClosed := by
  have outcome := self.onFrame_outcome frame maxReadBuffer
  rw [refused] at outcome
  cases outcome with
  | badClose _ invalid => exact checkClose_error invalid
  | data _ taken => exact onData_error taken

theorem onFrame_stream {self after : Streaming} {frame : Frame} {maxReadBuffer : Nat}
    {result : Result Frame} (taken : self.onFrame frame maxReadBuffer = (result, after)) :
    after.stream = self.stream := by
  have outcome := self.onFrame_outcome frame maxReadBuffer
  rw [taken] at outcome
  cases outcome <;> rfl

theorem onFrame_refused_queued {self after : Streaming} {frame : Frame} {maxReadBuffer : Nat}
    {error : WebSocketError} (taken : self.onFrame frame maxReadBuffer = (.error error, after)) :
    after.queued = self.queued := by
  have outcome := self.onFrame_outcome frame maxReadBuffer
  rw [taken] at outcome
  cases outcome <;> rfl

/-- Whether a received frame is refused: a Close frame by its payload, a data frame by its
compression or its size. -/
def refuses (self : Streaming) (frame : Frame) (maxReadBuffer : Nat) : Bool :=
  match frame.opcode with
  | .ping | .pong => false
  | .close => !(checkClose frame).isOk
  | _ => !(self.onData frame maxReadBuffer).1.isOk

theorem onFrame_isOk (self : Streaming) (frame : Frame) (maxReadBuffer : Nat) :
    (self.onFrame frame maxReadBuffer).1.isOk = !self.refuses frame maxReadBuffer := by
  unfold onFrame refuses
  cases opcode : frame.opcode with
  | continuation => simp
  | text => simp
  | binary => simp
  | ping => rfl
  | pong => rfl
  | close =>
    simp only [onClose]
    cases checkClose frame <;> rfl

/-- Data is judged by the decompressor and the limits alone. -/
theorem refuses_congr {first second : Streaming} (inflate : first.inflate = second.inflate)
    (maxPayloadRead : first.maxPayloadRead = second.maxPayloadRead) (frame : Frame)
    (maxReadBuffer : Nat) : first.refuses frame maxReadBuffer = second.refuses frame maxReadBuffer := by
  have bound : first.maxOutputSize frame maxReadBuffer = second.maxOutputSize frame maxReadBuffer := by
    simp [maxOutputSize, maxPayloadRead]
  have inflated (limit : Nat) :
      (first.inflateFrame frame limit).1 = (second.inflateFrame frame limit).1 := by
    unfold inflateFrame
    rw [inflate]
    split
    · split <;> rfl
    · rfl
  have data : (first.onData frame maxReadBuffer).1 = (second.onData frame maxReadBuffer).1 := by
    have same := inflated (second.maxOutputSize frame maxReadBuffer)
    simp only [onData, bound]
    generalize first.inflateFrame frame (second.maxOutputSize frame maxReadBuffer) = one at same ⊢
    generalize second.inflateFrame frame (second.maxOutputSize frame maxReadBuffer) = two at same ⊢
    obtain ⟨result, after⟩ := one
    obtain rfl : result = two.1 := same
    rcases two with ⟨error | received, _⟩
    · rfl
    · simp only
      split <;> rfl
  unfold refuses
  rw [data]

theorem ReadOutcome.refuses {before after : Streaming} {polled : Poll (Result Frame)}
    (outcome : ReadOutcome before polled after) (frame : Frame) (maxReadBuffer : Nat) :
    after.refuses frame maxReadBuffer = before.refuses frame maxReadBuffer := by
  have same : after.inflate = before.inflate ∧ after.maxPayloadRead = before.maxPayloadRead := by
    cases outcome <;> exact ⟨rfl, rfl⟩
  exact refuses_congr same.1 same.2 frame maxReadBuffer

/-- What an open reader makes of an item. -/
def answerTo (self : Streaming) : Poll (Option (Result Frame)) → Poll (Result Frame)
  | .pending => .pending
  | .ready none => .ready (.error .connectionClosed)
  | .ready (some (.error error)) => .ready (.error error)
  | .ready (some (.ok frame)) => .ready (.ok (self.readHalf.receive frame).1)

/-- What the next read comes to, as the arrivals have it. -/
def met (self : Streaming) : Poll (Result Frame) :=
  if self.readHalf.isClosed then .ready (.error .connectionClosed)
  else self.answerTo self.stream.nextItem

private theorem pollFrame_answer {self : Streaming} (reading : self.readHalf.isClosed = false) :
    self.pollFrame.1 = self.answerTo self.stream.pollNext.1 := by
  simp only [pollFrame, ReadHalf.pollFrame, reading, Bool.false_eq_true, ↓reduceIte]
  rcases self.stream.pollNext with ⟨(_ | (_ | _)) | _, _⟩ <;> rfl

private theorem pollFrame_pending {self : Streaming} (reading : self.readHalf.isClosed = false)
    {later : Framed} (waits : self.stream.pollNext = (.pending, later)) :
    self.pollFrame = (.pending, { self with stream := later }) := by
  simp [pollFrame, ReadHalf.pollFrame, reading, waits]

/-- The reader is polled until the item comes. -/
theorem pollReader_met (self : Streaming) : self.pollReader.1 = self.met := by
  unfold met
  cases closed : self.readHalf.isClosed with
  | true =>
    have once : self.pollFrame = (.ready (.error .connectionClosed), self) := by
      simp [pollFrame, ReadHalf.pollFrame, closed]
    simp [pollReader, Poll.again, once]
  | false =>
    have first := pollFrame_answer closed
    simp only [pollReader, Framed.nextItem, Bool.false_eq_true, ↓reduceIte]
    split
    · rcases polled : self.stream.pollNext with ⟨item | _, later⟩
      · have answered : self.pollFrame.1 ≠ .pending := by
          rw [first, polled]
          rcases item with _ | (_ | _) <;> simp [answerTo]
        rw [Poll.again_ready answered, first, Poll.again_ready (by simp [polled])]
      · have again : ({ self with stream := later } : Streaming).pollFrame.1 =
            self.answerTo later.pollNext.1 := pollFrame_answer closed
        simp only [Poll.again, polled, pollFrame_pending closed polled]
        exact again
    · exact first

/-- What follows a poll of the reader: silence is used to flush what is owed, an
error is answered by a Close. -/
inductive PolledOutcome (before : Streaming) (maxReadBuffer : Nat) :
    Poll (Result Frame) → Poll (Result Frame) × Streaming → Prop where
  | silent {polled : Poll (Result Frame)}
      (quiet : polled = .pending ∨ polled = .ready (.error .connectionClosed)) :
      PolledOutcome before maxReadBuffer polled
        (Poll.andThen before.pollFlushObligated fun _ self => (polled, self))
  | failed {error : WebSocketError} (cause : error ≠ .connectionClosed) :
      PolledOutcome before maxReadBuffer (.ready (.error error))
        (.ready (.error error), before.emitClose (closeFor error))
  | refused {frame : Frame} {error : WebSocketError} {after : Streaming}
      (refused : before.onFrame frame maxReadBuffer = (.error error, after))
      (cause : error ≠ .connectionClosed) :
      PolledOutcome before maxReadBuffer (.ready (.ok frame))
        (.ready (.error error), after.emitClose (closeFor error))
  | accepted {frame received : Frame} {after : Streaming}
      (accepted : before.onFrame frame maxReadBuffer = (.ok received, after)) :
      PolledOutcome before maxReadBuffer (.ready (.ok frame)) (.ready (.ok received), after)

/-- Silence is used to flush, and delivers nothing. -/
theorem silent_flushes (self : Streaming) {polled : Poll (Result Frame)}
    (quiet : polled = .pending ∨ polled = .ready (.error .connectionClosed)) :
    Flushes self (Poll.andThen self.pollFlushObligated fun _ self => (polled, self)) ∧
      ∀ frame, (Poll.andThen self.pollFlushObligated fun _ self => (polled, self)).1 ≠
        .ready (.ok frame) := by
  constructor
  · apply self.pollFlushObligated_effect.andThen
    intro _ flushed _
    apply Flushes.pure
    rcases quiet with rfl | rfl <;> simp [eq_comm]
  · intro frame
    match self.pollFlushObligated with
    | (.pending, _) => simp
    | (.ready (.error _), _) => simp
    | (.ready (.ok _), _) => rcases quiet with rfl | rfl <;> simp

theorem onPolled_outcome (self : Streaming) (polled : Poll (Result Frame)) (maxReadBuffer : Nat) :
    PolledOutcome self maxReadBuffer polled (self.onPolled polled maxReadBuffer) := by
  match polled with
  | .pending => exact .silent (.inl rfl)
  | .ready (.error error) =>
    by_cases ended : error = .connectionClosed
    · subst ended
      exact .silent (.inr rfl)
    · have answer : self.onPolled (.ready (.error error)) maxReadBuffer =
          (.ready (.error error), self.emitClose (closeFor error)) := by
        simp only [onPolled]
      rw [answer]
      exact .failed ended
  | .ready (.ok frame) =>
    simp only [onPolled]
    match received : self.onFrame frame maxReadBuffer with
    | (.ok frame, after) => exact .accepted received
    | (.error error, after) =>
      have cause := onFrame_error received
      have answer := PolledOutcome.refused received cause
      split <;> simp_all

/-- A closed reader only flushes. -/
theorem pollNextFrameWithLimit_closed {self : Streaming} (closed : self.readHalf.isClosed)
    (maxReadBuffer : Nat) :
    Flushes self (self.pollNextFrameWithLimit maxReadBuffer) ∧
      (∀ frame, (self.pollNextFrameWithLimit maxReadBuffer).1 ≠ .ready (.ok frame)) ∧
      ((self.pollNextFrameWithLimit maxReadBuffer).1 = .pending →
        self.obligatedSends ≠ [] ∨ self.flushSends) := by
  have polled : self.pollReader = (.ready (.error .connectionClosed), self) := by
    have outcome := self.pollReader_outcome
    generalize self.pollReader = result at outcome
    obtain ⟨answer, after⟩ := result
    cases outcome with
    | closed _ => rfl
    | pending reading _ => simp [closed] at reading
    | ended reading _ => simp [closed] at reading
    | failed reading _ _ => simp [closed] at reading
    | received reading _ => simp [closed] at reading
  have silent := self.silent_flushes (.inr rfl)
  unfold pollNextFrameWithLimit
  rw [polled]
  refine ⟨silent.1, silent.2, fun waiting => ?_⟩
  · by_cases idle : self.obligatedSends.isEmpty ∧ ¬ self.flushSends
    · have done : self.pollFlushObligated = (.ready (.ok ()), self) := by
        unfold pollFlushObligated
        rw [if_pos idle]
      simp [onPolled, done] at waiting
    · by_cases none : self.obligatedSends = []
      · exact .inr (by simpa [none] using idle)
      · exact .inl none

/-- A delivered frame was taken from the transport and accepted. -/
theorem pollNextFrameWithLimit_ok {self after : Streaming} {frame : Frame} {maxReadBuffer : Nat}
    (polled : self.pollNextFrameWithLimit maxReadBuffer = (.ready (.ok frame), after)) :
    ∃ raw later, self.readHalf.isClosed = false ∧
      self.stream.Takes later (.ready (some (.ok raw))) ∧
      Streaming.onFrame { self with stream := later, readHalf := (self.readHalf.receive raw).2 }
        (self.readHalf.receive raw).1 maxReadBuffer = (.ok frame, after) := by
  have reader := self.pollReader_outcome
  unfold pollNextFrameWithLimit at polled
  generalize self.pollReader = result at reader polled
  obtain ⟨answer, middle⟩ := result
  have outcome := middle.onPolled_outcome answer maxReadBuffer
  dsimp only at reader polled
  generalize middle.onPolled answer maxReadBuffer = result at outcome polled
  cases outcome with
  | silent quiet =>
    obtain ⟨_, _, _, same⟩ := Poll.andThen_eq_ok polled
    rcases quiet with rfl | rfl <;> simp at same
  | failed _ => simp at polled
  | refused _ _ => simp at polled
  | accepted taken =>
    simp only [Prod.mk.injEq, Poll.ready.injEq, Except.ok.injEq] at polled
    obtain ⟨rfl, rfl⟩ := polled
    cases reader with
    | @received later raw reading takes => exact ⟨raw, later, reading, takes, taken⟩

/-- What a read can do. -/
inductive ReadStep (before : Streaming) (maxReadBuffer : Nat) :
    Poll (Result Frame) × Streaming → Prop where
  | closed (closed : before.readHalf.isClosed) :
      ReadStep before maxReadBuffer
        (Poll.andThen before.pollFlushObligated fun _ self =>
          (.ready (.error .connectionClosed), self))
  | silent {later : Framed} (reading : before.readHalf.isClosed = false)
      (takes : before.stream.Takes later .pending) :
      ReadStep before maxReadBuffer
        (Poll.andThen { before with stream := later }.pollFlushObligated fun _ self =>
          (.pending, self))
  | ended {later : Framed} (reading : before.readHalf.isClosed = false)
      (takes : before.stream.Takes later (.ready none)) :
      ReadStep before maxReadBuffer
        (Poll.andThen
          { before with
            stream := later
            readHalf := { before.readHalf with isClosed := true } }.pollFlushObligated fun _ self =>
              (.ready (.error .connectionClosed), self))
  | failed {later : Framed} {error : WebSocketError} (reading : before.readHalf.isClosed = false)
      (takes : before.stream.Takes later (.ready (some (.error error))))
      (cause : error ≠ .connectionClosed) :
      ReadStep before maxReadBuffer
        (.ready (.error error), { before with stream := later }.emitClose (closeFor error))
  | accepted {later : Framed} {raw received : Frame} {after : Streaming}
      (reading : before.readHalf.isClosed = false)
      (takes : before.stream.Takes later (.ready (some (.ok raw))))
      (taken : Streaming.onFrame
        { before with stream := later, readHalf := (before.readHalf.receive raw).2 }
        (before.readHalf.receive raw).1 maxReadBuffer = (.ok received, after)) :
      ReadStep before maxReadBuffer (.ready (.ok received), after)
  | refused {later : Framed} {raw : Frame} {error : WebSocketError} {after : Streaming}
      (reading : before.readHalf.isClosed = false)
      (takes : before.stream.Takes later (.ready (some (.ok raw))))
      (taken : Streaming.onFrame
        { before with stream := later, readHalf := (before.readHalf.receive raw).2 }
        (before.readHalf.receive raw).1 maxReadBuffer = (.error error, after))
      (cause : error ≠ .connectionClosed) :
      ReadStep before maxReadBuffer (.ready (.error error), after.emitClose (closeFor error))

theorem pollNextFrameWithLimit_step (self : Streaming) (maxReadBuffer : Nat) :
    ReadStep self maxReadBuffer (self.pollNextFrameWithLimit maxReadBuffer) := by
  have reader := self.pollReader_outcome
  unfold pollNextFrameWithLimit
  generalize self.pollReader = result at reader
  obtain ⟨polled, middle⟩ := result
  have outcome := middle.onPolled_outcome polled maxReadBuffer
  dsimp only at reader ⊢
  generalize middle.onPolled polled maxReadBuffer = result at outcome ⊢
  cases reader with
  | closed closed =>
    cases outcome with
    | silent _ => exact .closed closed
    | failed cause => simp at cause
  | pending reading takes =>
    cases outcome with
    | silent _ => exact .silent reading takes
  | ended reading takes =>
    cases outcome with
    | silent _ => exact .ended reading takes
    | failed cause => simp at cause
  | failed reading takes cause =>
    cases outcome with
    | silent quiet => simp [cause] at quiet
    | failed _ => exact .failed reading takes cause
  | received reading takes =>
    cases outcome with
    | silent quiet => simp at quiet
    | accepted taken => exact .accepted reading takes taken
    | refused taken cause => exact .refused reading takes taken cause

/-- What a read of an open reader can do, where the transport only yields
frames. -/
inductive OpenRead (before : Streaming) (maxReadBuffer : Nat) :
    Poll (Result Frame) × Streaming → Prop where
  | silent {later : Framed} {attempt : Poll (Result Frame) × Streaming}
      (takes : before.stream.Takes later .pending)
      (flushes : Flushes { before with stream := later } attempt)
      (nothing : ∀ frame, attempt.1 ≠ .ready (.ok frame)) : OpenRead before maxReadBuffer attempt
  | accepted {later : Framed} {raw received : Frame} {after : Streaming}
      (takes : before.stream.Takes later (.ready (some (.ok raw))))
      (taken : Streaming.onFrame
        { before with stream := later, readHalf := (before.readHalf.receive raw).2 }
        (before.readHalf.receive raw).1 maxReadBuffer = (.ok received, after)) :
      OpenRead before maxReadBuffer (.ready (.ok received), after)
  | refused {later : Framed} {raw : Frame} {error : WebSocketError} {after : Streaming}
      (takes : before.stream.Takes later (.ready (some (.ok raw))))
      (taken : Streaming.onFrame
        { before with stream := later, readHalf := (before.readHalf.receive raw).2 }
        (before.readHalf.receive raw).1 maxReadBuffer = (.error error, after)) :
      OpenRead before maxReadBuffer (.ready (.error error), after.emitClose (closeFor error))

theorem pollNextFrameWithLimit_open {self : Streaming} (reading : self.readHalf.isClosed = false)
    (frames : OnlyFrames self.stream.incoming) (maxReadBuffer : Nat) :
    OpenRead self maxReadBuffer (self.pollNextFrameWithLimit maxReadBuffer) := by
  have step := self.pollNextFrameWithLimit_step maxReadBuffer
  generalize self.pollNextFrameWithLimit maxReadBuffer = result at step ⊢
  cases step with
  | closed closed => simp [reading] at closed
  | ended _ takes =>
    obtain ⟨_, same, _⟩ := takes.arriving_ready frames
    simp at same
  | failed _ takes _ =>
    obtain ⟨_, same, _⟩ := takes.arriving_ready frames
    simp at same
  | @silent later _ takes =>
    obtain ⟨flushes, nothing⟩ := silent_flushes { self with stream := later } (.inl rfl)
    exact .silent takes flushes nothing
  | accepted _ takes taken => exact .accepted takes taken
  | refused _ takes taken _ => exact .refused takes taken

private theorem maxOutputSize_le (self : Streaming) {frame : Frame}
    (fragment : frame.opcode = .continuation)
    (maxReadBuffer : Nat) : self.maxOutputSize frame maxReadBuffer ≤ maxReadBuffer := by
  unfold maxOutputSize
  rw [if_pos (.inr fragment)]
  exact Nat.min_le_right _ _

/-- A fragment behind the first keeps within the limit of the read. -/
theorem pollNextFrameWithLimit_fragment {self after : Streaming} {frame : Frame}
    {maxReadBuffer : Nat}
    (polled : self.pollNextFrameWithLimit maxReadBuffer = (.ready (.ok frame), after))
    (fragment : frame.opcode = .continuation) : frame.payload.length < maxReadBuffer := by
  obtain ⟨raw, later, _, _, taken⟩ := pollNextFrameWithLimit_ok polled
  have outcome := onFrame_outcome
    { self with stream := later, readHalf := (self.readHalf.receive raw).2 }
    (self.readHalf.receive raw).1 maxReadBuffer
  rw [taken] at outcome
  cases outcome with
  | ping opcode => simp [fragment] at opcode
  | pong opcode => simp [fragment] at opcode
  | close opcode _ => simp [fragment] at opcode
  | data _ data =>
    obtain ⟨opcode, -, -, within⟩ := onData_ok data
    exact Nat.lt_of_lt_of_le within (maxOutputSize_le _ (opcode ▸ fragment) _)

/-- What reads and writes keep, every call keeps. -/
theorem step_keeps {motive : Streaming → Prop}
    (read : ∀ (streaming : Streaming) maxReadBuffer, motive streaming →
      motive (streaming.pollNextFrameWithLimit maxReadBuffer).2)
    (write : ∀ {before after : Streaming}, before.SameReader after → motive before → motive after)
    {self : Streaming} (initial : motive self) (call : Call) : motive (self.step call).2 := by
  cases call with
  | pollNextFrame => exact read self _ initial
  | pollReady => exact write self.pollReady_effect.reader initial
  | startSend item => exact write (self.startSend_reader item) initial
  | pollFlush => exact write self.pollWriteFlush_effect.reader initial
  | pollClose => exact write self.pollClose_reader initial

end Streaming

namespace FragmentLayer

/-- A message in one frame, where none is open. -/
theorem assembleIncoming_whole {self : FragmentLayer} {frame : Frame} {now : Nat}
    (data : frame.opcode = .text ∨ frame.opcode = .binary) (closed : self.incomingFragment = none)
    (fin : frame.fin) : self.assembleIncoming frame now = (.ok (some frame), self) := by
  rcases data with opcode | opcode <;> simp [assembleIncoming, opcode, closed, fin]

/-- The first fragment of a message, where none is open. -/
theorem assembleIncoming_first {self : FragmentLayer} {frame : Frame} {now : Nat}
    (data : frame.opcode = .text ∨ frame.opcode = .binary) (closed : self.incomingFragment = none)
    (fin : frame.fin = false) :
    self.assembleIncoming frame now =
      (.ok none,
        { self with
          incomingBuffer := frame.payload
          incomingFragment := some {
            started := now
            opcode := frame.opcode
            isCompressed := frame.isCompressed
            bytesRead := frame.payload.length } }) := by
  rcases data with opcode | opcode <;> simp [assembleIncoming, opcode, closed, fin]

/-- A fragment of the open message, in time and within the limit. -/
theorem assembleIncoming_next {self : FragmentLayer} {frame : Frame} {now : Nat}
    {fragment : FragmentationState} (data : frame.opcode = .continuation)
    (opened : self.incomingFragment = some fragment)
    (timely : ∀ timeout, self.fragmentTimeout = some timeout → now - fragment.started ≤ timeout)
    (room : frame.payload.length < self.remainingReadCapacity) :
    self.assembleIncoming frame now =
      if frame.fin then
        (.ok (some { frame with
            opcode := fragment.opcode
            isCompressed := fragment.isCompressed
            payload := self.incomingBuffer ++ frame.payload }),
          { self with incomingBuffer := [], incomingFragment := none })
      else
        (.ok none,
          { self with
            incomingBuffer := self.incomingBuffer ++ frame.payload
            incomingFragment := some { fragment with
              bytesRead := fragment.bytesRead + frame.payload.length } }) := by
  have within : ¬ self.maxReadBuffer ≤ fragment.bytesRead + frame.payload.length := by
    simp only [remainingReadCapacity, opened, Option.map_some, Option.getD_some] at room
    omega
  have inTime : ¬ (self.fragmentTimeout.any fun timeout => timeout < now - fragment.started) := by
    cases limit : self.fragmentTimeout with
    | none => simp
    | some timeout => simpa using timely timeout limit
  simp only [assembleIncoming, data, opened, continueMessage]
  rw [if_neg within, if_neg inTime]

/-- Control frames pass. -/
theorem assembleIncoming_control {self : FragmentLayer} {frame : Frame} {now : Nat}
    (control : frame.opcode.isControl) :
    self.assembleIncoming frame now = (.ok (some frame), self) := by
  cases opcode : frame.opcode <;> simp_all [assembleIncoming, OpCode.isControl]

/-- Assembly leaves the fragments that wait to be sent and the settings alone. -/
theorem assembleIncoming_same (self : FragmentLayer) (frame : Frame) (now : Nat) :
    (self.assembleIncoming frame now).2.outgoingFragments = self.outgoingFragments ∧
      (self.assembleIncoming frame now).2.fragmentSize = self.fragmentSize ∧
      (self.assembleIncoming frame now).2.maxReadBuffer = self.maxReadBuffer ∧
      (self.assembleIncoming frame now).2.fragmentTimeout = self.fragmentTimeout := by
  unfold assembleIncoming continueMessage
  split
  · split
    · simp
    · split <;> simp
  · split
    · simp
    · split <;> simp
  · split
    · simp
    · dsimp only
      split
      · simp
      · split
        · simp
        · split <;> simp
  · simp

end FragmentLayer

namespace WebSocket

/-- Assembly leaves the layer below alone. -/
@[simp] theorem onFrame_streaming (self : WebSocket) (frame : Frame) :
    (self.onFrame frame).2.streaming = self.streaming := by
  unfold onFrame
  dsimp only
  split
  · split <;> rfl
  · rfl

theorem onFrame_fragmentLayer (self : WebSocket) (frame : Frame) :
    (self.onFrame frame).2.fragmentLayer =
      (self.fragmentLayer.assembleIncoming frame self.streaming.stream.clock).2 := by
  unfold onFrame
  dsimp only
  split
  · split <;> rfl
  · rfl

/-- A frame that is delivered was one of the arrivals. -/
theorem pollStreaming_shorter {self after : WebSocket} {frame : Frame}
    (polled : self.pollStreaming = (.ready (.ok frame), after)) :
    after.streaming.stream.incoming.length < self.streaming.stream.incoming.length := by
  simp only [pollStreaming, Prod.mk.injEq] at polled
  obtain ⟨answer, rfl⟩ := polled
  obtain ⟨raw, later, _, takes, taken⟩ :=
    Streaming.pollNextFrameWithLimit_ok (Prod.ext answer rfl)
  have stream := Streaming.onFrame_stream taken
  dsimp only at stream ⊢
  obtain ⟨skipped, _, arrival, _, found, _⟩ := takes.taken
  rw [stream, found, List.length_append, List.length_cons]
  omega

/-- What a read can come to, round by round: a round that brings no frame or
whose frame is refused or delivered ends it. -/
inductive Rounds : WebSocket → Poll (Result Frame) × WebSocket → Prop where
  | stop {self after : WebSocket} {answer : Poll (Result Frame)}
      (polled : self.pollStreaming = (answer, after))
      (nothing : ∀ frame, answer ≠ .ready (.ok frame)) : Rounds self (answer, after)
  | refuse {self middle after : WebSocket} {frame : Frame} {error : WebSocketError}
      (polled : self.pollStreaming = (.ready (.ok frame), middle))
      (taken : middle.onFrame frame = (.error error, after)) :
      Rounds self (.ready (.error error), after)
  | deliver {self middle after : WebSocket} {frame message : Frame}
      (polled : self.pollStreaming = (.ready (.ok frame), middle))
      (taken : middle.onFrame frame = (.ok (some message), after)) :
      Rounds self (.ready (.ok message), after)
  | again {self middle after : WebSocket} {frame : Frame} {result : Poll (Result Frame) × WebSocket}
      (polled : self.pollStreaming = (.ready (.ok frame), middle))
      (taken : middle.onFrame frame = (.ok none, after)) (rest : Rounds after result) :
      Rounds self result

private theorem readLoop_rounds {fuel : Nat} {self : WebSocket}
    (enough : self.streaming.stream.incoming.length < fuel) : Rounds self (self.readLoop fuel) := by
  induction fuel generalizing self with
  | zero => omega
  | succ fuel ih =>
    rw [readLoop]
    rcases polled : self.pollStreaming with ⟨(error | frame) | _, middle⟩
    · exact .stop polled (by simp)
    · have shorter := pollStreaming_shorter polled
      have same := middle.onFrame_streaming frame
      simp only [Poll.andThen_ok]
      rcases taken : middle.onFrame frame with ⟨error | _ | message, after⟩
      · exact .refuse polled taken
      · rw [taken] at same
        exact .again polled taken (ih (by rw [same]; omega))
      · exact .deliver polled taken
    · exact .stop polled (by simp)

theorem pollNextFrame_rounds (self : WebSocket) : Rounds self self.pollNextFrame :=
  readLoop_rounds (Nat.lt_succ_self _)

/-- What every poll of the layer below keeps of it, a read keeps. -/
theorem Rounds.keeps {motive : Streaming → Prop} {self : WebSocket}
    {result : Poll (Result Frame) × WebSocket}
    (read : ∀ (streaming : Streaming) maxReadBuffer, motive streaming →
      motive (streaming.pollNextFrameWithLimit maxReadBuffer).2)
    (rounds : Rounds self result) (initial : motive self.streaming) : motive result.2.streaming := by
  have polls {self middle : WebSocket} {answer : Poll (Result Frame)}
      (polled : self.pollStreaming = (answer, middle)) (initial : motive self.streaming) :
      motive middle.streaming := by
    simp only [pollStreaming, Prod.mk.injEq] at polled
    obtain ⟨-, rfl⟩ := polled
    exact read _ _ initial
  have assembles {middle after : WebSocket} {frame : Frame} {result : Result (Option Frame)}
      (taken : middle.onFrame frame = (result, after)) : after.streaming = middle.streaming := by
    have same := middle.onFrame_streaming frame
    rwa [taken] at same
  induction rounds with
  | stop polled _ => exact polls polled initial
  | refuse polled taken => exact assembles taken ▸ polls polled initial
  | deliver polled taken => exact assembles taken ▸ polls polled initial
  | again polled taken _ ih => exact ih (assembles taken ▸ polls polled initial)

/-- What reads and writes of the layer below keep of it, every call keeps. -/
theorem step_keeps {motive : Streaming → Prop} {self next : WebSocket} {call : Call}
    {answer : Answer}
    (read : ∀ (streaming : Streaming) maxReadBuffer, motive streaming →
      motive (streaming.pollNextFrameWithLimit maxReadBuffer).2)
    (write : ∀ {before after : Streaming}, before.SameReader after → motive before → motive after)
    (taken : self.step call = some (answer, next)) (initial : motive self.streaming) :
    motive next.streaming := by
  by_cases reading : call = .pollNextFrame
  · subst reading
    simp only [step, Option.some.injEq, Prod.mk.injEq] at taken
    obtain ⟨-, rfl⟩ := taken
    exact self.pollNextFrame_rounds.keeps read initial
  · exact write (step_writes reading taken).reader initial

/-- Sending fragments makes calls of the layer below. -/
theorem sendFragments_lifts {motive : Streaming → Prop}
    (steps : ∀ (streaming : Streaming) call, motive streaming → motive (streaming.step call).2)
    (fragments : List Frame) {self : WebSocket} (initial : motive self.streaming) :
    motive (sendFragments fragments self).2.streaming := by
  induction fragments generalizing self with
  | nil => exact initial
  | cons fragment rest ih =>
    apply Poll.andThen_keeps (motive := fun now : WebSocket => motive now.streaming)
    · have ready : motive self.pollStreamingReady.2.streaming := steps _ .pollReady initial
      apply Poll.andThen_keeps (motive := fun now : WebSocket => motive now.streaming) _ _ ready
      exact fun _ middle _ kept => steps middle.streaming (.startSend fragment) kept
    · exact fun _ _ _ kept => ih kept

/-- Every call makes calls of the layer below, so what these keep of it is kept. -/
theorem step_lifts {motive : Streaming → Prop} {self next : WebSocket} {call : Call}
    {answer : Answer}
    (read : ∀ (streaming : Streaming) maxReadBuffer, motive streaming →
      motive (streaming.pollNextFrameWithLimit maxReadBuffer).2)
    (steps : ∀ (streaming : Streaming) call, motive streaming → motive (streaming.step call).2)
    (taken : self.step call = some (answer, next)) (initial : motive self.streaming) :
    motive next.streaming := by
  have fragments : motive self.pollFlushFragments.2.streaming := sendFragments_lifts steps _ initial
  cases call with
  | pollNextFrame =>
    simp only [step, Option.some.injEq, Prod.mk.injEq] at taken
    obtain ⟨-, rfl⟩ := taken
    exact self.pollNextFrame_rounds.keeps read initial
  | pollReady =>
    simp only [step, Option.some.injEq, Prod.mk.injEq] at taken
    obtain ⟨-, rfl⟩ := taken
    apply Poll.andThen_keeps (motive := fun now : WebSocket => motive now.streaming) _ _ fragments
    exact fun _ middle _ kept => steps middle.streaming .pollReady kept
  | startSend item =>
    simp only [step, startSend] at taken
    split at taken
    · simp only [Option.map_some, Option.some.injEq, Prod.mk.injEq] at taken
      obtain ⟨-, rfl⟩ := taken
      exact steps self.streaming (.startSend item) initial
    · simp only [Option.map_map, Option.map_eq_some_iff, Function.comp, Prod.mk.injEq] at taken
      obtain ⟨layer, -, -, rfl⟩ := taken
      exact initial
  | pollFlush =>
    simp only [step, Option.some.injEq, Prod.mk.injEq] at taken
    obtain ⟨-, rfl⟩ := taken
    apply Poll.andThen_keeps (motive := fun now : WebSocket => motive now.streaming) _ _ fragments
    exact fun _ middle _ kept => steps middle.streaming .pollFlush kept
  | pollClose =>
    simp only [step, Option.some.injEq, Prod.mk.injEq] at taken
    obtain ⟨-, rfl⟩ := taken
    exact steps self.streaming .pollClose initial

/-- The loop never runs out of rounds: more of them make no difference. -/
theorem readLoop_enough {fuel : Nat} {self : WebSocket}
    (enough : self.streaming.stream.incoming.length < fuel) :
    self.readLoop (fuel + 1) = self.readLoop fuel := by
  induction fuel generalizing self with
  | zero => omega
  | succ fuel ih =>
    rw [readLoop, readLoop]
    match polled : self.pollStreaming with
    | (.pending, _) => rfl
    | (.ready (.error _), _) => rfl
    | (.ready (.ok frame), after) =>
      have shorter := pollStreaming_shorter polled
      have same := after.onFrame_streaming frame
      simp only [Poll.andThen_ok]
      match taken : after.onFrame frame with
      | (.error _, _) => rfl
      | (.ok (some _), _) => rfl
      | (.ok none, next) =>
        rw [taken] at same
        exact ih (by rw [same]; omega)

end WebSocket

end Yawc
