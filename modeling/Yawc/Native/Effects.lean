import Yawc.Native.WebSocket

/-! What the sending calls of a connection can do, once for all later proofs. -/

namespace Yawc

namespace Framed

/-- The transport reports no error on its sink side. -/
def Healthy (self : Framed) : Prop := ∀ reply ∈ self.replies, ∀ error, reply ≠ .ready (.error error)

theorem Healthy.record {self : Framed} (healthy : self.Healthy) (event : Event) :
    (self.record event).Healthy :=
  fun reply member => healthy reply (List.mem_of_mem_tail member)

theorem Healthy.nextReply {self : Framed} (healthy : self.Healthy) (error : WebSocketError) :
    self.nextReply ≠ .ready (.error error) := by
  unfold Framed.nextReply
  cases first : self.replies.head? with
  | none => simp
  | some reply => exact healthy reply (List.mem_of_mem_head? first) error

@[simp] theorem handed_pollReady (self : Framed) : self.pollReady.2.handed = self.handed := by
  simp [pollReady, record, handed, accepted]

@[simp] theorem handed_pollFlush (self : Framed) : self.pollFlush.2.handed = self.handed := by
  simp [pollFlush, record, handed, accepted]

@[simp] theorem handed_pollClose (self : Framed) : self.pollClose.2.handed = self.handed := by
  simp [pollClose, record, handed, accepted]

/-- A frame is handed on exactly when the sink takes it. -/
theorem handed_startSend (self : Framed) (frame : Frame) :
    (self.startSend frame).2.handed =
      self.handed ++ match (self.startSend frame).1 with
        | .ok () => [frame]
        | .error _ => [] := by
  simp only [startSend, record, handed, List.filterMap_append]
  split <;> simp [accepted]

theorem Healthy.startSend {self : Framed} (healthy : self.Healthy) (frame : Frame) :
    (self.startSend frame).1 = .ok () ∧
      (self.startSend frame).2.handed = self.handed ++ [frame] := by
  have taken : (self.startSend frame).1 = .ok () := by
    unfold Framed.startSend
    cases reply : self.nextReply with
    | pending => rfl
    | ready result =>
      cases result with
      | ok _ => rfl
      | error error => exact absurd reply (healthy.nextReply error)
  refine ⟨taken, ?_⟩
  rw [handed_startSend, taken]

end Framed

/-- What sink calls leave: the reading side, and fewer answers. -/
structure Framed.Sends (before after : Framed) : Prop where
  incoming : after.incoming = before.incoming
  clock : after.clock = before.clock
  replies : after.replies <:+ before.replies
  handed : before.handed <+: after.handed

theorem Framed.Sends.refl (self : Framed) : self.Sends self :=
  ⟨rfl, rfl, List.suffix_rfl, List.prefix_rfl⟩

theorem Framed.Sends.trans {first second third : Framed} (left : first.Sends second)
    (right : second.Sends third) : first.Sends third :=
  ⟨right.incoming.trans left.incoming, right.clock.trans left.clock,
    right.replies.trans left.replies, left.handed.trans right.handed⟩

private theorem Framed.handed_record (self : Framed) (event : Event) :
    self.handed <+: (self.record event).handed := by
  simp only [handed, record, List.filterMap_append]
  exact List.prefix_append _ _

theorem Framed.record_sends (self : Framed) (event : Event) : self.Sends (self.record event) :=
  ⟨rfl, rfl, List.tail_suffix _, self.handed_record event⟩

namespace WriteHalf

theorem pollClosing_sends (self : WriteHalf) (stream : Framed) :
    stream.Sends (self.pollClosing stream).2.2 := by
  have closed := stream.record_sends (.pollClose stream.nextReply)
  unfold pollClosing
  match polled : stream.pollClose with
  | (.pending, after) => exact (Prod.mk.inj polled).2 ▸ closed
  | (.ready _, after) => exact (Prod.mk.inj polled).2 ▸ closed

theorem pollFlushing_sends (self : WriteHalf) (stream : Framed) :
    stream.Sends (self.pollFlushing stream).2.2 := by
  have flushed := stream.record_sends (.pollFlush stream.nextReply)
  unfold pollFlushing
  match polled : stream.pollFlush with
  | (.pending, after) => exact (Prod.mk.inj polled).2 ▸ flushed
  | (.ready _, after) =>
    have first : stream.Sends after := (Prod.mk.inj polled).2 ▸ flushed
    exact first.trans (self.pollClosing_sends after)

private theorem pollSending_sends (self : WriteHalf) (stream : Framed) (frame : Frame) :
    stream.Sends (self.pollSending stream frame).2.2 := by
  have ready := stream.record_sends (.pollReady stream.nextReply)
  unfold pollSending
  match polled : stream.pollReady with
  | (.pending, after) => exact (Prod.mk.inj polled).2 ▸ ready
  | (.ready _, after) =>
    have first : stream.Sends after := (Prod.mk.inj polled).2 ▸ ready
    match taken : after.startSend frame with
    | (.error _, final) =>
      simp only [taken]
      exact first.trans ((Prod.mk.inj taken).2 ▸ after.record_sends _)
    | (.ok (), final) =>
      simp only [taken]
      have second : after.Sends final := (Prod.mk.inj taken).2 ▸ after.record_sends _
      exact (first.trans second).trans (self.pollFlushing_sends final)

theorem pollClose_sends (self : WriteHalf) (stream : Framed) :
    stream.Sends (self.pollClose stream).2.2 := by
  unfold pollClose
  split
  · exact self.pollSending_sends stream _
  · exact self.pollSending_sends stream _
  · exact self.pollFlushing_sends stream
  · exact self.pollClosing_sends stream
  · exact .refl _

end WriteHalf

def NoClose (frames : List Frame) : Prop := ∀ frame ∈ frames, frame.opcode ≠ .close

instance decidableNoClose : DecidablePred NoClose := fun frames =>
  inferInstanceAs (Decidable (∀ frame ∈ frames, frame.opcode ≠ .close))

/-- At most one Close, and nothing behind it. -/
def CloseLast : List Frame → Prop
  | [] => True
  | frame :: rest => (frame.opcode = .close → rest = []) ∧ CloseLast rest

instance decidableCloseLast : DecidablePred CloseLast
  | [] => inferInstanceAs (Decidable True)
  | frame :: rest =>
    have := decidableCloseLast rest
    inferInstanceAs (Decidable ((frame.opcode = .close → rest = []) ∧ CloseLast rest))

theorem CloseLast.snoc {frames : List Frame} (none : NoClose frames) (frame : Frame) :
    CloseLast (frames ++ [frame]) := by
  induction frames with
  | nil => exact ⟨fun _ => rfl, trivial⟩
  | cons first rest ih =>
    refine ⟨fun close => absurd close (none first (by simp)), ih fun frame member => ?_⟩
    exact none frame (by simp [member])

/-- A Close frame has been taken by the writer. -/
def WriteHalf.closeSent (self : WriteHalf) : Bool :=
  self.closeState = some .flushing || self.closeState = some .closing ||
    self.closeState = some .done

/-- Owed frames without a Close leave the close state as it is. -/
theorem onSend_closeState {writeHalf : WriteHalf} (frames : List Frame) (none : NoClose frames) :
    (frames.foldl WriteHalf.onSend writeHalf).closeState = writeHalf.closeState := by
  induction frames generalizing writeHalf with
  | nil => rfl
  | cons frame rest ih =>
    rw [List.foldl_cons, ih fun other member => none other (by simp [member])]
    simp [WriteHalf.onSend, none frame (by simp)]

theorem closeSent_congr {first second : WriteHalf} (same : first.closeState = second.closeState) :
    first.closeSent = second.closeSent := by
  simp [WriteHalf.closeSent, same]

/-- What becomes of a close whose Close has gone out: it is still under way, or it has
come to its end and left no state behind. -/
structure WriteHalf.Behind (stream : Framed) (result : Reply × WriteHalf × Framed) : Prop where
  handed : result.2.2.handed = stream.handed
  stage : result.1 = .pending ∧
      (result.2.1.closeState = some .flushing ∨ result.2.1.closeState = some .closing) ∨
    result.1 = .ready (.ok ()) ∧ result.2.1.closeState = none

theorem WriteHalf.pollClosing_behind (self : WriteHalf) (stream : Framed) :
    Behind stream (self.pollClosing stream) := by
  have handed := stream.handed_pollClose
  unfold WriteHalf.pollClosing
  match polled : stream.pollClose with
  | (.pending, after) => exact ⟨by simpa [polled] using handed, .inl ⟨rfl, .inr rfl⟩⟩
  | (.ready _, after) => exact ⟨by simpa [polled, pollDone] using handed, .inr ⟨rfl, rfl⟩⟩

theorem WriteHalf.pollFlushing_behind (self : WriteHalf) (stream : Framed) :
    Behind stream (self.pollFlushing stream) := by
  have handed := stream.handed_pollFlush
  unfold WriteHalf.pollFlushing
  match polled : stream.pollFlush with
  | (.pending, after) => exact ⟨by simpa [polled] using handed, .inl ⟨rfl, .inl rfl⟩⟩
  | (.ready _, after) =>
    obtain ⟨same, stage⟩ := self.pollClosing_behind after
    exact ⟨by simpa [polled, same] using handed, stage⟩

/-- The Close is not sent again, and a close that is done is not left at that. -/
theorem WriteHalf.Behind.state {stream : Framed} {result : Reply × WriteHalf × Framed}
    (behind : Behind stream result) :
    (∀ frame, result.2.1.closeState ≠ some (.sending frame)) ∧
      result.2.1.closeState ≠ some .done := by
  rcases behind.stage with ⟨-, state | state⟩ | ⟨-, state⟩
  · simp [state]
  · simp [state]
  · simp [state]

/-- What becomes of a close that has not sent its frame: it waits, the sink refuses the
frame, or it goes out. -/
inductive WriteHalf.SendOutcome (stream : Framed) (frame : Frame)
    (result : Reply × WriteHalf × Framed) : Prop where
  | waits (answer : result.1 = .pending) (state : result.2.1.closeState = some (.sending frame))
      (same : result.2.2.handed = stream.handed)
  | refused (error : WebSocketError) (answer : result.1 = .ready (.error error))
      (state : result.2.1.closeState = none) (same : result.2.2.handed = stream.handed)
  | sent (final : Framed) (grown : final.handed = stream.handed ++ [frame])
      (behind : Behind final result)

/-- A close that waits to send a frame waits to send the one it has. -/
theorem WriteHalf.SendOutcome.state {stream : Framed} {frame : Frame}
    {result : Reply × WriteHalf × Framed} (outcome : SendOutcome stream frame result) :
    (∀ other, result.2.1.closeState = some (.sending other) → other = frame) ∧
      result.2.1.closeState ≠ some .done := by
  cases outcome with
  | waits _ state _ => simp [state, eq_comm]
  | refused _ _ state _ => simp [state]
  | sent _ _ behind =>
    exact ⟨fun other sending => absurd sending (behind.state.1 other), behind.state.2⟩

/-- The frame is handed on at most. -/
theorem WriteHalf.SendOutcome.handed {stream : Framed} {frame : Frame}
    {result : Reply × WriteHalf × Framed} (outcome : SendOutcome stream frame result) :
    result.2.2.handed = stream.handed ∨ result.2.2.handed = stream.handed ++ [frame] := by
  cases outcome with
  | waits _ _ same => exact .inl same
  | refused _ _ _ same => exact .inl same
  | sent _ grown behind => exact .inr (behind.handed.trans grown)

private theorem WriteHalf.pollSending_outcome (self : WriteHalf) (stream : Framed) (frame : Frame) :
    SendOutcome stream frame (self.pollSending stream frame) := by
  have ready := stream.handed_pollReady
  unfold WriteHalf.pollSending
  match polled : stream.pollReady with
  | (.pending, after) => exact .waits rfl rfl (by simpa [polled] using ready)
  | (.ready _, after) =>
    have same : after.handed = stream.handed := by simpa [polled] using ready
    have handed := after.handed_startSend frame
    match taken : after.startSend frame with
    | (.error error, final) =>
      simp only [taken]
      exact .refused error rfl rfl (by simpa [taken, same] using handed)
    | (.ok (), final) =>
      simp only [taken]
      exact .sent final (by simpa [taken, same] using handed) (self.pollFlushing_behind final)

/-- What a call of a graceful close can come to. -/
inductive WriteHalf.CloseOutcome (self : WriteHalf) (stream : Framed)
    (result : Reply × WriteHalf × Framed) : Prop where
  | sends (frame : Frame)
      (state : self.closeState = none ∧ frame = .close .normal [] ∨
        self.closeState = some (.sending frame))
      (outcome : SendOutcome stream frame result)
  | behind (sent : self.closeSent) (outcome : Behind stream result)

theorem WriteHalf.pollClose_outcome (self : WriteHalf) (stream : Framed) :
    self.CloseOutcome stream (self.pollClose stream) := by
  unfold WriteHalf.pollClose
  split
  · rename_i state
    exact .sends _ (.inl ⟨state, rfl⟩) (self.pollSending_outcome stream _)
  · rename_i frame state
    exact .sends frame (.inr state) (self.pollSending_outcome stream frame)
  · rename_i state
    exact .behind (by simp [closeSent, state]) (self.pollFlushing_behind stream)
  · rename_i state
    exact .behind (by simp [closeSent, state]) (self.pollClosing_behind stream)
  · rename_i state
    exact .behind (by simp [closeSent, state]) ⟨rfl, .inr ⟨rfl, rfl⟩⟩

namespace Streaming

/-- Sending leaves the reader, the settings and what was ever owed alone. -/
structure SameReader (before after : Streaming) : Prop where
  readHalf : after.readHalf = before.readHalf
  inflate : after.inflate = before.inflate
  maxPayloadRead : after.maxPayloadRead = before.maxPayloadRead
  compressionThreshold : after.compressionThreshold = before.compressionThreshold
  queued : after.queued = before.queued
  stream : before.stream.Sends after.stream

theorem SameReader.refl (self : Streaming) : SameReader self self :=
  ⟨rfl, rfl, rfl, rfl, rfl, .refl _⟩

theorem SameReader.trans {first second third : Streaming} (left : SameReader first second)
    (right : SameReader second third) : SameReader first third where
  readHalf := right.readHalf.trans left.readHalf
  inflate := right.inflate.trans left.inflate
  maxPayloadRead := right.maxPayloadRead.trans left.maxPayloadRead
  compressionThreshold := right.compressionThreshold.trans left.compressionThreshold
  queued := right.queued.trans left.queued
  stream := left.stream.trans right.stream

/-- What flushing owed frames can do: some of them, in order, leave the queue, the sink
takes some of these, and a healthy one takes each. -/
structure FlushEffect (before after : Streaming) (popped : List Frame) : Prop where
  owed : before.obligatedSends = popped ++ after.obligatedSends
  writer : after.writeHalf = popped.foldl WriteHalf.onSend before.writeHalf
  deflate : after.deflate = before.deflate
  reader : SameReader before after
  sent : ∃ taken : List Frame, taken.Sublist popped ∧ after.handed = before.handed ++ taken
  handed : before.stream.Healthy → after.handed = before.handed ++ popped

private theorem FlushEffect.refl (self : Streaming) : FlushEffect self self [] :=
  ⟨rfl, rfl, rfl, .refl self, ⟨[], .refl [], by simp⟩, fun _ => by simp⟩

theorem FlushEffect.healthy {before after : Streaming} {popped : List Frame}
    (effect : FlushEffect before after popped) (healthy : before.stream.Healthy) :
    after.stream.Healthy :=
  fun reply member => healthy reply (effect.reader.stream.replies.subset member)

theorem FlushEffect.trans {first second third : Streaming} {early late : List Frame}
    (left : FlushEffect first second early) (right : FlushEffect second third late) :
    FlushEffect first third (early ++ late) where
  owed := by rw [left.owed, right.owed, List.append_assoc]
  writer := by rw [right.writer, left.writer, List.foldl_append]
  deflate := right.deflate.trans left.deflate
  reader := left.reader.trans right.reader
  sent := by
    obtain ⟨first, within, grown⟩ := left.sent
    obtain ⟨second, within', grown'⟩ := right.sent
    exact ⟨first ++ second, within.append within', by rw [grown', grown, List.append_assoc]⟩
  handed := fun healthy => by
    rw [right.handed (left.healthy healthy), left.handed healthy, List.append_assoc]

/-- A call that flushes. It fails only if the connection is done or the sink
does. -/
structure Flushes {Value : Type} (before : Streaming)
    (attempt : Poll.Attempt WebSocketError Streaming Value) : Prop where
  effect : ∃ popped, FlushEffect before attempt.2 popped
  cause : ∀ error, attempt.1 = .ready (.error error) →
    error = .connectionClosed ∨ .ready (.error error) ∈ before.stream.replies

/-- Sequencing keeps the effect of both operations. -/
theorem Flushes.andThen {Value Other : Type} {self : Streaming}
    {attempt : Poll.Attempt WebSocketError Streaming Value}
    {next : Value → Streaming → Poll.Attempt WebSocketError Streaming Other}
    (first : Flushes self attempt)
    (second : ∀ value middle, attempt = (.ready (.ok value), middle) →
      Flushes middle (next value middle)) : Flushes self (Poll.andThen attempt next) := by
  match attempt, first, second with
  | (.ready (.ok value), middle), ⟨⟨early, left⟩, _⟩, second =>
    obtain ⟨⟨late, right⟩, cause⟩ := second value middle rfl
    refine ⟨⟨early ++ late, left.trans right⟩, fun error failed => ?_⟩
    exact (cause error failed).imp_right fun member => left.reader.stream.replies.subset member
  | (.ready (.error _), _), ⟨effect, cause⟩, _ => exact ⟨effect, by simpa using cause⟩
  | (.pending, _), ⟨effect, _⟩, _ => exact ⟨effect, nofun⟩

/-- An operation that does nothing more. -/
theorem Flushes.pure {Value : Type} (self : Streaming) {answer : Poll (Result Value)}
    (fine : ∀ error, answer = .ready (.error error) → error = .connectionClosed) :
    Flushes self (answer, self) :=
  ⟨⟨[], .refl self⟩, fun error failed => .inl (fine error failed)⟩

theorem nextReply_error {stream : Framed} {error : WebSocketError}
    (failed : stream.nextReply = .ready (.error error)) : .ready (.error error) ∈ stream.replies := by
  unfold Framed.nextReply at failed
  cases first : stream.replies.head? with
  | none => simp [first] at failed
  | some reply =>
    simp only [first, Option.getD_some] at failed
    exact failed ▸ List.mem_of_mem_head? first

theorem pollWriteReady_effect (self : Streaming) : Flushes self self.pollWriteReady := by
  simp only [pollWriteReady, WriteHalf.pollReady]
  split
  · exact .pure self (by simp [eq_comm])
  · refine ⟨⟨[], rfl, rfl, rfl, ⟨rfl, rfl, rfl, rfl, rfl, Framed.record_sends _ _⟩,
      ⟨[], .refl [], ?_⟩, ?_⟩, ?_⟩
    · simp [handed]
    · simp [handed]
    · exact fun error failed => .inr (nextReply_error failed)

/-- The sink is not asked once the connection is done. -/
theorem pollWriteReady_ok {self next : Streaming}
    (ready : self.pollWriteReady = (.ready (.ok ()), next)) :
    self.writeHalf.closeState ≠ some .done ∧
      next = { self with stream := self.stream.pollReady.2 } := by
  simp only [pollWriteReady, WriteHalf.pollReady] at ready
  split at ready
  · simp at ready
  · rename_i open'
    simp only [Prod.mk.injEq] at ready
    exact ⟨open', ready.2.symm⟩

theorem pollWriteFlush_effect (self : Streaming) : Flushes self self.pollWriteFlush := by
  refine ⟨⟨[], rfl, rfl, rfl, ⟨rfl, rfl, rfl, rfl, rfl, Framed.record_sends _ _⟩,
    ⟨[], .refl [], ?_⟩, ?_⟩, ?_⟩
  · simp [pollWriteFlush, WriteHalf.pollFlush, handed]
  · simp [pollWriteFlush, WriteHalf.pollFlush, handed]
  · exact fun error failed => .inr (nextReply_error failed)

theorem startSend_error {stream : Framed} {frame : Frame} {error : WebSocketError}
    (failed : (stream.startSend frame).1 = .error error) :
    .ready (.error error) ∈ stream.replies := by
  unfold Framed.startSend at failed
  dsimp only at failed
  split at failed
  · rename_i reply
    simp only [Except.error.injEq] at failed
    exact failed ▸ nextReply_error reply
  · simp at failed

private theorem sendObligated_effect {self : Streaming} {next : Frame} {rest : List Frame}
    (owed : self.obligatedSends = next :: rest) : Flushes self (self.sendObligated next rest) := by
  apply Flushes.andThen self.pollWriteReady_effect
  intro _ middle ready
  obtain ⟨-, rfl⟩ := pollWriteReady_ok ready
  have taken := fun healthy : self.stream.pollReady.2.Healthy => healthy.startSend next
  have grown := self.stream.pollReady.2.handed_startSend next
  split
  · rename_i error after sent
    simp only [writeStartSend, WriteHalf.startSend, Prod.mk.injEq] at sent
    obtain ⟨refused, rfl⟩ := sent
    refine ⟨⟨[next], by simp [owed], rfl, rfl, ⟨rfl, rfl, rfl, rfl, rfl, Framed.record_sends _ _⟩,
      ⟨[], List.nil_sublist _, ?_⟩, fun healthy => ?_⟩, ?_⟩
    · rwa [refused] at grown
    · rw [(taken healthy).1] at refused
      contradiction
    · intro cause failed
      simp only [Poll.ready.injEq, Except.error.injEq] at failed
      exact .inr (failed ▸ startSend_error refused)
  · rename_i after sent
    simp only [writeStartSend, WriteHalf.startSend, Prod.mk.injEq] at sent
    obtain ⟨accepted, rfl⟩ := sent
    rw [accepted] at grown
    exact ⟨⟨[next], by simp [owed], rfl, rfl, ⟨rfl, rfl, rfl, rfl, rfl, Framed.record_sends _ _⟩,
      ⟨[next], .refl _, grown⟩, fun healthy => (taken healthy).2⟩, nofun⟩

theorem sendObligated_ok {self after : Streaming} {next : Frame} {rest : List Frame}
    (done : self.sendObligated next rest = (.ready (.ok ()), after)) :
    after.obligatedSends = rest := by
  obtain ⟨_, middle, -, sent⟩ := Poll.andThen_eq_ok done
  split at sent
  · simp at sent
  · rename_i sending
    simp only [writeStartSend, Prod.mk.injEq] at sending
    obtain ⟨-, rfl⟩ := sending
    simp only [Prod.mk.injEq, true_and] at sent
    exact sent ▸ rfl

private theorem sendAllObligated_effect (owed : List Frame) {self : Streaming}
    (same : self.obligatedSends = owed) : Flushes self (sendAllObligated owed self) := by
  induction owed generalizing self with
  | nil => exact .pure self nofun
  | cons next rest ih =>
    apply Flushes.andThen (sendObligated_effect same)
    intro _ middle sent
    exact ih (sendObligated_ok sent)

private theorem sendAllObligated_ok (owed : List Frame) {self after : Streaming}
    (same : self.obligatedSends = owed)
    (done : sendAllObligated owed self = (.ready (.ok ()), after)) : after.obligatedSends = [] := by
  induction owed generalizing self with
  | nil =>
    simp only [sendAllObligated, Prod.mk.injEq, true_and] at done
    exact done ▸ same
  | cons next rest ih =>
    obtain ⟨_, middle, sent, later⟩ := Poll.andThen_eq_ok done
    exact ih (sendObligated_ok sent) later

private theorem flushObligated_effect (self : Streaming) : Flushes self self.flushObligated := by
  apply Flushes.andThen (sendAllObligated_effect _ rfl)
  intro _ middle _
  split
  · apply Flushes.andThen middle.pollWriteFlush_effect
    intro _ final _
    exact ⟨⟨[], rfl, rfl, rfl, ⟨rfl, rfl, rfl, rfl, rfl, .refl _⟩,
      ⟨[], .refl [], by simp [handed]⟩, fun _ => by simp [handed]⟩, nofun⟩
  · exact .pure middle nofun

private theorem flushObligated_ok {self after : Streaming}
    (done : self.flushObligated = (.ready (.ok ()), after)) :
    after.obligatedSends = [] ∧ after.flushSends = false := by
  obtain ⟨_, middle, sent, later⟩ := Poll.andThen_eq_ok done
  have empty := sendAllObligated_ok _ rfl sent
  split at later
  · obtain ⟨_, final, flushed, last⟩ := Poll.andThen_eq_ok later
    simp only [pollWriteFlush, Prod.mk.injEq] at flushed
    obtain ⟨-, rfl⟩ := flushed
    simp only [Prod.mk.injEq, true_and] at last
    subst last
    exact ⟨empty, rfl⟩
  · rename_i quiet
    simp only [Prod.mk.injEq, true_and] at later
    subst later
    exact ⟨empty, by simpa using quiet⟩

/-- Flushing what is owed only moves owed frames to the sink. -/
theorem pollFlushObligated_effect (self : Streaming) : Flushes self self.pollFlushObligated := by
  unfold pollFlushObligated
  split
  · exact .pure self nofun
  · have first := self.flushObligated_effect
    unfold Poll.again
    split
    · rename_i flushed
      rwa [flushed] at first
    · rename_i middle flushed
      rw [flushed] at first
      obtain ⟨early, left⟩ := first.effect
      obtain ⟨⟨late, right⟩, cause⟩ := middle.flushObligated_effect
      refine ⟨⟨early ++ late, left.trans right⟩, fun error failed => ?_⟩
      exact (cause error failed).imp_right fun member => left.reader.stream.replies.subset member

/-- It is finished once nothing is owed. -/
theorem pollFlushObligated_ok {self after : Streaming}
    (done : self.pollFlushObligated = (.ready (.ok ()), after)) :
    after.obligatedSends = [] ∧ after.flushSends = false := by
  unfold pollFlushObligated at done
  split at done
  · rename_i quiet
    simp only [Prod.mk.injEq, true_and] at done
    subst done
    simpa using quiet
  · rcases Poll.again_cases done with first | ⟨middle, -, second⟩
    · exact flushObligated_ok first
    · exact flushObligated_ok second

theorem pollReady_effect (self : Streaming) : Flushes self self.pollReady := by
  unfold pollReady
  split
  · exact self.pollWriteReady_effect
  · apply Flushes.andThen self.pollFlushObligated_effect
    intro _ middle _
    exact middle.pollWriteReady_effect

/-- The connection is ready for a frame only once nothing is owed. -/
theorem pollReady_ok {self after : Streaming} (ready : self.pollReady = (.ready (.ok ()), after)) :
    after.obligatedSends = [] := by
  unfold pollReady at ready
  split at ready
  · rename_i quiet
    obtain ⟨-, rfl⟩ := pollWriteReady_ok ready
    simpa using quiet.1
  · obtain ⟨_, middle, flushed, last⟩ := Poll.andThen_eq_ok ready
    obtain ⟨-, rfl⟩ := pollWriteReady_ok last
    exact (pollFlushObligated_ok flushed).1

/-- A graceful close only writes. -/
theorem pollClose_reader (self : Streaming) : SameReader self self.pollClose.2 := by
  exact ⟨rfl, rfl, rfl, rfl, rfl, self.writeHalf.pollClose_sends self.stream⟩

/-- Preparing a frame only changes the compressor. -/
theorem prepare_deflate (self : Streaming) (item : Frame) :
    ∃ deflate, (self.prepare item).2 = { self with deflate } := by
  unfold prepare
  split
  · exact ⟨self.deflate, rfl⟩
  · split
    · split <;> exact ⟨_, rfl⟩
    · exact ⟨self.deflate, rfl⟩

/-- Preparing a frame changes its payload and its compression flag at most. -/
theorem prepare_frame {self after : Streaming} {item prepared : Frame}
    (done : self.prepare item = (.ok prepared, after)) :
    prepared.opcode = item.opcode ∧ prepared.fin = item.fin ∧ prepared.mask = item.mask := by
  unfold prepare at done
  split at done
  · simp only [Prod.mk.injEq, Except.ok.injEq] at done
    simp [← done.1]
  · split at done
    · split at done
      · simp at done
      · simp only [Prod.mk.injEq, Except.ok.injEq] at done
        simp [← done.1]
    · simp only [Prod.mk.injEq, Except.ok.injEq] at done
      simp [← done.1]

/-- A user's frame fails to be compressed, or goes to the writer. -/
theorem startSend_cases (self : Streaming) (item : Frame) :
    (∃ error deflate, self.startSend item = (.error error, { self with deflate })) ∨
    ∃ prepared deflate, self.prepare item = (.ok prepared, { self with deflate }) ∧
      self.startSend item = { self with deflate }.writeStartSend prepared := by
  obtain ⟨deflate, same⟩ := self.prepare_deflate item
  unfold startSend
  match prepared : self.prepare item with
  | (.error error, after) =>
    rw [prepared] at same
    exact .inl ⟨error, deflate, by rw [← same]⟩
  | (.ok frame, after) =>
    rw [prepared] at same
    exact .inr ⟨frame, deflate, by rw [← same], by rw [← same]⟩

theorem startSend_reader (self : Streaming) (item : Frame) :
    SameReader self (self.startSend item).2 := by
  rcases self.startSend_cases item with ⟨error, deflate, failed⟩ | ⟨prepared, deflate, _, sent⟩
  · rw [failed]
    exact ⟨rfl, rfl, rfl, rfl, rfl, .refl _⟩
  · rw [sent]
    exact ⟨rfl, rfl, rfl, rfl, rfl, Framed.record_sends _ _⟩

theorem Flushes.reader {Value : Type} {before : Streaming}
    {attempt : Poll.Attempt WebSocketError Streaming Value} (flushes : Flushes before attempt) :
    SameReader before attempt.2 :=
  flushes.effect.elim fun _ effect => effect.reader

end Streaming

namespace WebSocket

/-- What calls on the sink leave alone. -/
structure OnlyWrites (before after : WebSocket) : Prop where
  reader : before.streaming.SameReader after.streaming
  layer : ∃ outgoingFragments, after.fragmentLayer = { before.fragmentLayer with outgoingFragments }
  checkUtf8 : after.checkUtf8 = before.checkUtf8

namespace OnlyWrites

variable {before middle after : WebSocket}

theorem streaming {streaming : Streaming} (reader : before.streaming.SameReader streaming) :
    OnlyWrites before { before with streaming } :=
  ⟨reader, ⟨before.fragmentLayer.outgoingFragments, rfl⟩, rfl⟩

theorem trans (left : OnlyWrites before middle) (right : OnlyWrites middle after) :
    OnlyWrites before after := by
  obtain ⟨_, first⟩ := left.layer
  obtain ⟨waiting, second⟩ := right.layer
  exact ⟨left.reader.trans right.reader, ⟨waiting, by rw [second, first]⟩,
    right.checkUtf8.trans left.checkUtf8⟩

end OnlyWrites

private theorem sendFragments_writes (fragments : List Frame) (self : WebSocket) :
    OnlyWrites self (sendFragments fragments self).2 := by
  induction fragments generalizing self with
  | nil => exact .streaming (.refl _)
  | cons fragment rest ih =>
    apply Poll.andThen_keeps (motive := OnlyWrites self)
    · apply Poll.andThen_keeps (motive := OnlyWrites self) _ _
        (.streaming self.streaming.pollReady_effect.reader)
      intro _ middle _ same
      exact same.trans ⟨middle.streaming.startSend_reader fragment, ⟨rest, rfl⟩, rfl⟩
    · intro _ middle _ same
      exact same.trans (ih middle)

/-- Every call but a read answers with a reply or a result of sending. -/
theorem step_answer {self next : WebSocket} {call : Call} {answer : Answer}
    (writing : call ≠ .pollNextFrame) (taken : self.step call = some (answer, next)) :
    (∃ reply, answer = .reply reply) ∨ ∃ result, answer = .sent result := by
  cases call with
  | pollNextFrame => exact absurd rfl writing
  | startSend frame =>
    simp only [step, Option.map_eq_some_iff, Prod.mk.injEq] at taken
    obtain ⟨⟨result, after⟩, -, rfl, -⟩ := taken
    exact .inr ⟨result, rfl⟩
  | pollReady | pollFlush | pollClose =>
    simp only [step, Option.some.injEq, Prod.mk.injEq] at taken
    exact .inl ⟨_, taken.1.symm⟩

/-- Every call but a read only writes. -/
theorem step_writes {self next : WebSocket} {call : Call} {answer : Answer}
    (writing : call ≠ .pollNextFrame) (taken : self.step call = some (answer, next)) :
    OnlyWrites self next := by
  have flushed := sendFragments_writes self.fragmentLayer.outgoingFragments self
  cases call with
  | pollNextFrame => exact absurd rfl writing
  | pollReady =>
    simp only [step, Option.some.injEq, Prod.mk.injEq] at taken
    rw [← taken.2]
    apply Poll.andThen_keeps (motive := OnlyWrites self) _ _ flushed
    exact fun _ middle _ same => same.trans (.streaming middle.streaming.pollReady_effect.reader)
  | pollFlush =>
    simp only [step, Option.some.injEq, Prod.mk.injEq] at taken
    rw [← taken.2]
    apply Poll.andThen_keeps (motive := OnlyWrites self) _ _ flushed
    exact fun _ middle _ same =>
      same.trans (.streaming middle.streaming.pollWriteFlush_effect.reader)
  | pollClose =>
    simp only [step, Option.some.injEq, Prod.mk.injEq] at taken
    exact taken.2 ▸ .streaming self.streaming.pollClose_reader
  | startSend frame =>
    simp only [step, startSend] at taken
    split at taken
    · simp only [Option.map_some, Option.some.injEq, Prod.mk.injEq] at taken
      exact taken.2 ▸ .streaming (self.streaming.startSend_reader frame)
    · simp only [Option.map_map, Option.map_eq_some_iff, Function.comp,
        FragmentLayer.fragmentOutgoing] at taken
      obtain ⟨fragments, -, same⟩ := taken
      simp only [Prod.mk.injEq] at same
      exact same.2 ▸ ⟨.refl _, ⟨_, rfl⟩, rfl⟩

end WebSocket

end Yawc
