import Yawc.Compression.Deflate

/-! Whether a message leaves the compressor complete. The flush loop takes any
output that ends with the marker for the end of the flush. -/

namespace Yawc

variable {Core : Type}

/-- A message as the fragments in front of its last one. -/
structure Fragments where
  first : List Bytes
  last : Bytes

/-- One message through the wrapper: the state it found, the state at its
flush, the outputs of its calls and the state it left. -/
structure Sent (Core : Type) where
  before : Deflate Core
  flushing : Deflate Core
  outputs : List Bytes
  after : Deflate Core

namespace Deflate

/-- The fragments that do not end the message. -/
def compressFirst (engine : Engine Core) (chunks : Chunks) (fuel : Nat) :
    Deflate Core → List Bytes → Option (Result (List Bytes) × Deflate Core)
  | self, [] => some (.ok [], self)
  | self, input :: inputs =>
    match self.compress engine chunks fuel input false with
    | some (.ok bytes, self) =>
      match compressFirst engine chunks fuel self inputs with
      | some (.ok outputs, self) => some (.ok (bytes :: outputs), self)
      | failed => failed
    | some (.error error, self) => some (.error error, self)
    | none => none

/-- All calls of one message, if they return `Ok`. -/
def send (engine : Engine Core) (chunks : Chunks) (fuel : Nat) (self : Deflate Core)
    (message : Fragments) : Option (Sent Core) :=
  match self.compressFirst engine chunks fuel message.first with
  | some (.ok outputs, next) =>
    match next.writeAll engine chunks fuel message.last,
        next.compress engine chunks fuel message.last true with
    | some (.ok (), flushing), some (.ok bytes, after) =>
      some { before := self, flushing, outputs := outputs ++ [bytes], after }
    | _, _ => none
  | _ => none

/-- The messages of a connection, up to the first that fails. Without context
takeover the compressor is reset after each. -/
def run (engine : Engine Core) (chunks : Chunks) (fuel : Nat) (noContextTakeover : Bool) :
    Deflate Core → List Fragments → List (Sent Core)
  | _, [] => []
  | self, message :: messages =>
    match self.send engine chunks fuel message with
    | none => []
    | some sent =>
      let next := if noContextTakeover then sent.after.reset engine else sent.after
      sent :: run engine chunks fuel noContextTakeover next messages

/-- Where the chunk of a flush round ends in the queue. -/
def cut (chunks : Chunks) (self : Deflate Core) : Nat → Nat
  | 0 => 0
  | round + 1 => self.cut chunks round + chunks.room (self.chunks + round)

/-- Some chunk ends inside the queue, right behind bytes that look like the
marker. -/
def FalseMarker (engine : Engine Core) (chunks : Chunks) (self : Deflate Core) : Prop :=
  ∃ round, self.cut chunks round < (self.queue engine).length ∧
    syncMarker <:+ (self.queue engine).take (self.cut chunks round)

end Deflate

namespace Sent

/-- The message made the compressor produce output, so its flush has a tail. -/
def Producing (engine : Engine Core) (sent : Sent Core) : Prop :=
  (engine.sync sent.flushing.compressor.core).isSome

/-- What the calls returned is what the compressor produced, but for the
marker, and nothing is left for later. -/
def Complete (sent : Sent Core) : Prop :=
  sent.after.compressor.produced =
      sent.before.compressor.produced ++ sent.outputs.flatten ++ syncMarker ∧
    sent.after.compressor.pending = []

end Sent

namespace Deflate

variable (engine : Engine Core) (chunks : Chunks)

/-- The compressor once the tail of a sync flush is queued. -/
private def synced (core : Core) : Core :=
  match engine.sync core with
  | some (_, next) => next
  | none => core

private theorem sync_synced (core : Core) : engine.sync (synced engine core) = none := by
  unfold synced
  split
  · rename_i tail next first
    exact engine.sync_once first
  · rename_i again
    exact again

/-- The state after a round, apart from what became of the output. -/
private def rounded (self : Deflate Core) (output : Bytes) : Deflate Core where
  output := output
  compressor := {
    core := synced engine self.compressor.core
    pending := (self.queue engine).drop (chunks.room self.chunks)
    produced := self.compressor.produced ++ self.tail engine }
  chunks := self.chunks + 1

private theorem tail_rounded (self : Deflate Core) (output : Bytes) :
    (self.rounded engine chunks output).tail engine = [] := by
  simp [tail, rounded, sync_synced]

private theorem queue_rounded (self : Deflate Core) (output : Bytes) :
    (self.rounded engine chunks output).queue engine =
      (self.queue engine).drop (chunks.room self.chunks) := by
  rw [queue, tail_rounded, List.append_nil]
  rfl

/-- A round writes the next chunk of the queue. -/
theorem flushRound_eq (self : Deflate Core) :
    self.flushRound engine chunks =
      let output := self.output ++ (self.queue engine).take (chunks.room self.chunks)
      if self.queue engine = [] then (true, self.rounded engine chunks (output ++ [0x0]))
      else if syncMarker <:+ output then
        (true, self.rounded engine chunks (output.take (output.length - 4)))
      else (false, self.rounded engine chunks output) := by
  have room := chunks.enough self.chunks
  have call : self.compressor.compress engine [] (chunks.room self.chunks) .syncFlush =
      (if (self.queue engine).take (chunks.room self.chunks) = [] then .bufError else .ok, 0,
        (self.queue engine).take (chunks.room self.chunks),
        (self.rounded engine chunks self.output).compressor) := by
    rcases outcome : engine.sync self.compressor.core with _ | ⟨tail, next⟩ <;>
      simp [Compress.compress, rounded, queue, Deflate.tail, synced, outcome]
  have empty : (self.queue engine).take (chunks.room self.chunks) = [] ↔ self.queue engine = [] := by
    rw [List.take_eq_nil_iff]
    constructor
    · rintro (none | nothing)
      · omega
      · exact nothing
    · exact .inr
  simp only [flushRound, call, empty, List.isEmpty_iff, List.isSuffixOf_iff_suffix]
  by_cases nothing : self.queue engine = []
  · simp [nothing, rounded]
  · simp [nothing, rounded]

/-- The loop is done after at most one round more than there are bytes to write. -/
theorem flushLoop_isSome (fuel : Nat) (self : Deflate Core)
    (enough : (self.queue engine).length < fuel) :
    (self.flushLoop engine chunks fuel).isSome := by
  induction fuel generalizing self with
  | zero => omega
  | succ fuel ih =>
    have room := chunks.enough self.chunks
    rw [flushLoop, flushRound_eq]
    by_cases nothing : self.queue engine = []
    · simp [nothing]
    · have some : 0 < (self.queue engine).length := List.length_pos_iff.mpr nothing
      simp only [if_neg nothing]
      split
      · rfl
      · rename_i next round
        split at round
        · simp at round
        · simp only [Prod.mk.injEq, true_and] at round
          subst round
          apply ih
          rw [queue_rounded, List.length_drop]
          omega

/-- A flush comes to an end. -/
theorem flush_isSome (self : Deflate Core) : (self.flush engine chunks).isSome := by
  rw [flush, Option.isSome_map]
  exact flushLoop_isSome engine chunks _ self (Nat.lt_succ_self _)

private theorem cut_mono (self : Deflate Core) {early late : Nat} (ordered : early ≤ late) :
    self.cut chunks early ≤ self.cut chunks late := by
  induction ordered with
  | refl => exact Nat.le_refl _
  | step _ ih => exact Nat.le_trans ih (Nat.le_add_right _ _)

private theorem cut_large (self : Deflate Core) {round : Nat} (started : 0 < round) :
    1024 ≤ self.cut chunks round := by
  cases round with
  | zero => omega
  | succ round =>
    have room := chunks.enough (self.chunks + round)
    simp only [cut]
    omega

/-- The output in front of which the loop looks for the marker. -/
private def seen (self : Deflate Core) (round : Nat) : Bytes :=
  self.output ++ (self.queue engine).take (self.cut chunks round)

/-- Where the loop stands after some rounds that did not end it. -/
private structure Reached (start : Deflate Core) (round : Nat) (now : Deflate Core) : Prop where
  asked : now.chunks = start.chunks + round
  output : now.output = start.seen engine chunks round
  queue : now.queue engine = (start.queue engine).drop (start.cut chunks round)
  produced : now.compressor.produced ++ now.tail engine =
    start.compressor.produced ++ start.tail engine
  unmarked : ∀ earlier, 0 < earlier → earlier ≤ round →
    ¬ syncMarker <:+ start.seen engine chunks earlier

/-- Where the loop stopped, with the marker in sight for the first time. -/
private structure Stopped (start : Deflate Core) (round : Nat) (final : Deflate Core) : Prop where
  started : 0 < round
  output : final.output ++ syncMarker = start.seen engine chunks round
  pending : final.compressor.pending = (start.queue engine).drop (start.cut chunks round)
  produced : final.compressor.produced = start.compressor.produced ++ start.tail engine
  unmarked : ∀ earlier, 0 < earlier → earlier < round →
    ¬ syncMarker <:+ start.seen engine chunks earlier

private theorem seen_succ {self now : Deflate Core} {round : Nat}
    (reached : Reached engine chunks self round now) :
    now.output ++ (now.queue engine).take (chunks.room now.chunks) =
      self.seen engine chunks (round + 1) := by
  rw [reached.output, reached.queue, reached.asked, seen, seen, List.append_assoc, cut,
    List.take_add]

private theorem drop_succ {self now : Deflate Core} {round : Nat}
    (reached : Reached engine chunks self round now) :
    (now.queue engine).drop (chunks.room now.chunks) =
      (self.queue engine).drop (self.cut chunks (round + 1)) := by
  rw [reached.queue, reached.asked, cut, List.drop_drop]

private theorem take_marker {output : Bytes} (marked : syncMarker <:+ output) :
    output.take (output.length - 4) ++ syncMarker = output := by
  obtain ⟨front, rfl⟩ := marked
  have size : (front ++ syncMarker).length - 4 = front.length := by simp [syncMarker]
  rw [size, List.take_left]

/-- As the queue ends with the marker, the loop stops at the latest when all of
it is written, and it writes something in every round. -/
private theorem flushLoop_stopped {self : Deflate Core}
    (marked : syncMarker <:+ self.queue engine) (fuel : Nat) {now final : Deflate Core}
    {round : Nat} (reached : Reached engine chunks self round now)
    (done : now.flushLoop engine chunks fuel = some final) :
    ∃ round, Stopped engine chunks self round final := by
  induction fuel generalizing now round with
  | zero => simp [flushLoop] at done
  | succ fuel ih =>
    have more : now.queue engine ≠ [] := by
      intro written
      rw [reached.queue, List.drop_eq_nil_iff] at written
      cases round with
      | zero =>
        obtain ⟨front, whole⟩ := marked
        simp [← whole, cut, syncMarker] at written
      | succ round =>
        apply reached.unmarked (round + 1) (by omega) (by omega)
        rw [seen, List.take_of_length_le written]
        exact marked.trans (List.suffix_append _ _)
    rw [flushLoop, flushRound_eq] at done
    simp only [if_neg more, seen_succ engine chunks reached] at done
    by_cases stop : syncMarker <:+ self.seen engine chunks (round + 1)
    · simp only [if_pos stop, Option.some.injEq] at done
      subst done
      refine ⟨round + 1, by omega, take_marker stop, drop_succ engine chunks reached,
        reached.produced, ?_⟩
      intro earlier started before
      exact reached.unmarked earlier started (by omega)
    · simp only [if_neg stop] at done
      refine ih ⟨?_, rfl, ?_, ?_, ?_⟩ done
      · simp only [rounded, reached.asked]
        omega
      · rw [queue_rounded, drop_succ engine chunks reached]
      · rw [tail_rounded, List.append_nil]
        exact reached.produced
      · intro earlier started within
        rcases Nat.lt_or_ge round earlier with last | before
        · have current : earlier = round + 1 := by omega
          rwa [current]
        · exact reached.unmarked earlier started before

private theorem reached_start (self : Deflate Core) :
    Reached engine chunks self 0 self where
  asked := rfl
  output := by simp [seen, cut]
  queue := by simp [cut]
  produced := rfl
  unmarked := fun earlier started within => absurd within (Nat.not_le.mpr started)

/-- Behind the first chunk, only the queue decides whether the marker is seen. -/
private theorem seen_marked_iff {self : Deflate Core} {round : Nat} (started : 0 < round)
    (inside : self.cut chunks round < (self.queue engine).length) :
    syncMarker <:+ self.seen engine chunks round ↔
      syncMarker <:+ (self.queue engine).take (self.cut chunks round) := by
  have large := cut_large chunks self started
  constructor
  · intro marked
    apply List.suffix_of_suffix_length_le marked (List.suffix_append _ _)
    rw [List.length_take, Nat.min_eq_left (Nat.le_of_lt inside)]
    exact Nat.le_trans (by decide) large
  · exact fun marked => marked.trans (List.suffix_append _ _)

/-- A flush with a tail writes the whole queue exactly when no chunk of it ends
behind a false marker. -/
theorem flush_complete_iff {self after : Deflate Core} {bytes : Bytes}
    (marked : syncMarker <:+ self.queue engine)
    (done : self.flush engine chunks = some (bytes, after)) :
    (bytes ++ syncMarker = self.output ++ self.queue engine ∧ after.compressor.pending = []) ↔
      ¬ self.FalseMarker engine chunks := by
  obtain ⟨final, loop, taken⟩ := Option.map_eq_some_iff.mp done
  obtain ⟨round, stopped⟩ :=
    flushLoop_stopped engine chunks marked _ (reached_start engine chunks self) loop
  simp only [takeOutput, Prod.mk.injEq] at taken
  obtain ⟨rfl, rfl⟩ := taken
  simp only [stopped.pending, stopped.output]
  constructor
  · rintro ⟨-, drained⟩ ⟨fake, inside, faked⟩
    have written : (self.queue engine).length ≤ self.cut chunks round :=
      List.drop_eq_nil_iff.mp drained
    have started : 0 < fake := by
      cases fake with
      | zero => simp [cut, syncMarker] at faked
      | succ fake => omega
    rcases Nat.lt_or_ge fake round with before | later
    · exact stopped.unmarked fake started before
        ((seen_marked_iff engine chunks started inside).mpr faked)
    · have := cut_mono chunks self later
      omega
  · intro honest
    have written : (self.queue engine).length ≤ self.cut chunks round := by
      apply Nat.le_of_not_lt
      intro inside
      have marker : syncMarker <:+ self.seen engine chunks round := ⟨_, stopped.output⟩
      exact honest ⟨round, inside, (seen_marked_iff engine chunks stopped.started inside).mp marker⟩
    exact ⟨by rw [seen, List.take_of_length_le written], List.drop_eq_nil_iff.mpr written⟩

private theorem flush_produced {self after : Deflate Core} {bytes : Bytes}
    (marked : syncMarker <:+ self.queue engine)
    (done : self.flush engine chunks = some (bytes, after)) :
    after.compressor.produced = self.compressor.produced ++ self.tail engine := by
  obtain ⟨final, loop, taken⟩ := Option.map_eq_some_iff.mp done
  obtain ⟨round, stopped⟩ :=
    flushLoop_stopped engine chunks marked _ (reached_start engine chunks self) loop
  simp only [takeOutput, Prod.mk.injEq] at taken
  obtain ⟨-, rfl⟩ := taken
  exact stopped.produced

/-- With nothing to write, a flush leaves nothing pending. -/
theorem flush_nothing {self after : Deflate Core} {bytes : Bytes}
    (nothing : self.queue engine = []) (done : self.flush engine chunks = some (bytes, after)) :
    after.compressor.pending = [] := by
  simp only [flush, nothing, flushLoop, flushRound_eq, ↓reduceIte,
    Option.map_some, Option.some.injEq, takeOutput, Prod.mk.injEq] at done
  obtain ⟨-, rfl⟩ := done
  simp [rounded, nothing]

private theorem flush_output {self after : Deflate Core} {bytes : Bytes}
    (done : self.flush engine chunks = some (bytes, after)) : after.output = [] := by
  obtain ⟨final, -, taken⟩ := Option.map_eq_some_iff.mp done
  simp only [takeOutput, Prod.mk.injEq] at taken
  obtain ⟨-, rfl⟩ := taken
  rfl

/-- The bytes queued between two states are all accounted for: returned, in the
output buffer or still pending. -/
private def Queued (self : Deflate Core) (outputs : Bytes) (next : Deflate Core) : Prop :=
  ∃ fed, next.compressor.produced = self.compressor.produced ++ fed ∧
    outputs ++ next.output ++ next.compressor.pending =
      self.output ++ self.compressor.pending ++ fed

private theorem queued_refl (self : Deflate Core) : Queued self [] self :=
  ⟨[], by simp, by simp⟩

private theorem queued_trans {self middle next : Deflate Core} {first second : Bytes}
    (left : Queued self first middle) (right : Queued middle second next) :
    Queued self (first ++ second) next := by
  obtain ⟨fed, produced, outputs⟩ := left
  obtain ⟨fed', produced', outputs'⟩ := right
  refine ⟨fed ++ fed', by rw [produced', produced, List.append_assoc], ?_⟩
  rw [← List.append_assoc, ← outputs, List.append_assoc first, List.append_assoc first, outputs']
  simp

/-- The compressor was not touched, or its next sync flush has a tail. -/
private def Dirty (self next : Deflate Core) : Prop :=
  next.compressor = self.compressor ∨ (engine.sync next.compressor.core).isSome

private theorem dirty_trans {self middle next : Deflate Core} (left : Dirty engine self middle)
    (right : Dirty engine middle next) : Dirty engine self next := by
  rcases right with same | dirty
  · rw [Dirty, same]
    exact left
  · exact .inr dirty

private theorem write_spec {self next : Deflate Core} {input : Bytes} {consumed : Nat}
    (given : input ≠ []) (done : self.write engine chunks input = (.ok consumed, next)) :
    Queued self [] next ∧ Dirty engine self next := by
  have fed : input.isEmpty = false := by simpa using given
  simp only [write, Compress.compress, fed] at done
  split at done
  · simp only [Prod.mk.injEq, Except.ok.injEq] at done
    obtain ⟨-, rfl⟩ := done
    refine ⟨⟨(engine.feed self.compressor.core input (chunks.room self.chunks)).2.1, ?_, ?_⟩, .inr ?_⟩
    · simp
    · simp
    · exact engine.feed_sync ..
  · simp at done
  · simp at done

private theorem writeAll_spec (fuel : Nat) {self next : Deflate Core} {input : Bytes}
    (done : self.writeAll engine chunks fuel input = some (.ok (), next)) :
    Queued self [] next ∧ Dirty engine self next := by
  induction fuel generalizing self input with
  | zero => simp [writeAll] at done
  | succ fuel ih =>
    rw [writeAll] at done
    split at done
    · simp only [Option.some.injEq, Prod.mk.injEq, true_and] at done
      subst done
      exact ⟨queued_refl self, .inl rfl⟩
    · rename_i given
      split at done
      · simp at done
      · rename_i consumed middle first
        obtain ⟨queued, dirty⟩ := write_spec engine chunks (by simpa using given) first
        obtain ⟨queued', dirty'⟩ := ih done
        exact ⟨queued_trans queued queued', dirty_trans engine dirty dirty'⟩

private theorem compressFirst_spec (fuel : Nat) {self next : Deflate Core} {inputs : List Bytes}
    {outputs : List Bytes}
    (done : self.compressFirst engine chunks fuel inputs = some (.ok outputs, next)) :
    Queued self outputs.flatten next ∧ Dirty engine self next := by
  induction inputs generalizing self outputs with
  | nil =>
    simp only [compressFirst, Option.some.injEq, Prod.mk.injEq, Except.ok.injEq] at done
    obtain ⟨rfl, rfl⟩ := done
    exact ⟨queued_refl self, .inl rfl⟩
  | cons input inputs ih =>
    simp only [compressFirst, compress] at done
    rcases loop : self.writeAll engine chunks fuel input with _ | ⟨_ | _, middle⟩
    · simp [loop] at done
    · simp [loop] at done
    · simp only [loop, takeOutput, Bool.false_eq_true, ↓reduceIte] at done
      obtain ⟨queued, dirty⟩ := writeAll_spec engine chunks fuel loop
      split at done
      · rename_i later last rest
        simp only [Option.some.injEq, Prod.mk.injEq, Except.ok.injEq] at done
        obtain ⟨rfl, rfl⟩ := done
        obtain ⟨queued', dirty'⟩ := ih rest
        have taken : Queued self middle.output { middle with output := [] } := by
          obtain ⟨fed, produced, whole⟩ := queued
          exact ⟨fed, produced, by simpa using whole⟩
        exact ⟨queued_trans taken queued', dirty_trans engine dirty dirty'⟩
      · rename_i other
        exact (other _ _ done).elim

/-- Nothing of an earlier message is left in the buffer or the compressor. -/
def Ready (self : Deflate Core) : Prop :=
  self.output = [] ∧ self.compressor.pending = []

/-- A message that went through is its writes and one flush. -/
private theorem send_spec {fuel : Nat} {self : Deflate Core} {message : Fragments}
    {sent : Sent Core} (done : self.send engine chunks fuel message = some sent) :
    sent.before = self ∧ ∃ outputs bytes, sent.outputs = outputs ++ [bytes] ∧
      Queued self outputs.flatten sent.flushing ∧ Dirty engine self sent.flushing ∧
      sent.flushing.flush engine chunks = some (bytes, sent.after) := by
  unfold send at done
  split at done
  · rename_i outputs next early
    obtain ⟨queued, dirty⟩ := compressFirst_spec engine chunks fuel early
    split at done
    · rename_i flushing bytes after loop whole
      obtain ⟨queued', dirty'⟩ := writeAll_spec engine chunks fuel loop
      simp only [Option.some.injEq] at done
      subst done
      refine ⟨rfl, outputs, bytes, rfl, ?_, dirty_trans engine dirty dirty', ?_⟩
      · simpa using queued_trans queued queued'
      · simp only [compress, loop, ↓reduceIte] at whole
        obtain ⟨⟨bytes', after'⟩, flushed, same⟩ := Option.map_eq_some_iff.mp whole
        simp only [Prod.mk.injEq, Except.ok.injEq] at same
        obtain ⟨rfl, rfl⟩ := same
        exact flushed
    · simp at done
  · simp at done

private theorem send_ready {fuel : Nat} {self : Deflate Core} {message : Fragments}
    {sent : Sent Core}
    (ready : self.Ready) (done : self.send engine chunks fuel message = some sent)
    (settled : sent.Producing engine → sent.Complete) : sent.after.Ready := by
  obtain ⟨-, outputs, bytes, -, queued, dirty, flushed⟩ := send_spec engine chunks done
  refine ⟨flush_output engine chunks flushed, ?_⟩
  by_cases producing : sent.Producing engine
  · exact (settled producing).2
  · have untouched : sent.flushing.compressor = self.compressor :=
      dirty.resolve_right producing
    have last : engine.sync sent.flushing.compressor.core = none := by
      simpa [Sent.Producing] using producing
    apply flush_nothing engine chunks _ flushed
    simp only [queue, tail, last, List.append_nil]
    rw [untouched, ready.2]

/-- The bytes of a message that started clean are all returned exactly when its
flush meets no false marker. -/
theorem send_complete_iff {fuel : Nat} {self : Deflate Core} {message : Fragments}
    {sent : Sent Core} (ready : self.Ready)
    (done : self.send engine chunks fuel message = some sent)
    (producing : sent.Producing engine) :
    sent.Complete ↔ ¬ sent.flushing.FalseMarker engine chunks := by
  obtain ⟨rfl, outputs, bytes, outs, ⟨fed, produced, whole⟩, -, flushed⟩ :=
    send_spec engine chunks done
  obtain ⟨⟨tail', next⟩, last⟩ := Option.isSome_iff_exists.mp producing
  have tail_eq : sent.flushing.tail engine = tail' := by simp [tail, last]
  have marked : syncMarker <:+ sent.flushing.queue engine := by
    rw [queue, tail_eq]
    exact (engine.sync_marker last).trans (List.suffix_append _ _)
  rw [← flush_complete_iff engine chunks marked flushed, Sent.Complete, and_congr_left_iff]
  intro _
  rw [flush_produced engine chunks marked flushed, produced, outs, queue]
  simp only [ready.1, ready.2, List.nil_append] at whole
  rw [← whole]
  simp only [List.flatten_append, List.flatten_singleton, List.append_assoc,
    List.append_cancel_left_eq]
  exact eq_comm

/-- On every run the messages that produced output are complete exactly when
none of their flushes met a false marker. -/
theorem run_complete_iff (fuel : Nat) (noContextTakeover : Bool) (messages : List Fragments) :
    let sents := (Deflate.new engine).run engine chunks fuel noContextTakeover messages
    (∀ sent ∈ sents, sent.Producing engine → sent.Complete) ↔
      ∀ sent ∈ sents, sent.Producing engine → ¬ sent.flushing.FalseMarker engine chunks := by
  intro sents
  have ready : (Deflate.new engine).Ready := ⟨rfl, rfl⟩
  suffices every : ∀ self : Deflate Core, self.Ready →
      ((∀ sent ∈ self.run engine chunks fuel noContextTakeover messages,
          sent.Producing engine → sent.Complete) ↔
        ∀ sent ∈ self.run engine chunks fuel noContextTakeover messages,
          sent.Producing engine → ¬ sent.flushing.FalseMarker engine chunks) from every _ ready
  induction messages with
  | nil => simp [run]
  | cons message messages ih =>
    intro self ready
    rw [run]
    split
    · simp
    · rename_i sent done
      have here := send_complete_iff engine chunks ready done
      simp only [List.forall_mem_cons]
      rw [forall_congr' here]
      -- The messages behind a complete one start clean again, with or without a reset.
      refine and_congr_right fun honest => ih _ ?_
      have settled := send_ready engine chunks ready done fun producing =>
        (here producing).mpr (honest producing)
      split
      · exact ⟨settled.1, rfl⟩
      · exact settled

end Deflate

instance (engine : Engine Core) (sent : Sent Core) : Decidable (sent.Producing engine) :=
  inferInstanceAs (Decidable (_ = true))

instance (sent : Sent Core) : Decidable sent.Complete :=
  inferInstanceAs (Decidable (_ ∧ _))

/-- Compression level 0: each write becomes a stored block, which copies the
payload verbatim. The core remembers whether anything follows the last flush. -/
def storedEngine : Engine Bool where
  fresh := true
  feed _ input _ :=
    let block := input.take 65535
    let low := UInt8.ofNat block.length
    let high := UInt8.ofNat (block.length / 256)
    (block.length, [0x0, low, high, ~~~low, ~~~high] ++ block, true)
  sync core := if core then some ([0x0, 0x0, 0x0, 0xff, 0xff], false) else none
  feed_takes _ input _ := by simp [List.length_take]
  feed_sync _ _ _ := rfl
  sync_marker := by
    rintro (_ | _) tail next last
    · simp at last
    · simp only [↓reduceIte, Option.some.injEq, Prod.mk.injEq] at last
      obtain ⟨rfl, -⟩ := last
      exact ⟨[0x0], rfl⟩
  sync_once := by
    rintro (_ | _) tail next last
    · simp at last
    · simp only [↓reduceIte, Option.some.injEq, Prod.mk.injEq] at last
      obtain ⟨-, rfl⟩ := last
      rfl

/-- A payload with the marker's bytes where the second chunk of 1024 bytes ends:
the flush stops there, and the rest of the message stays behind. -/
theorem stored_message_incomplete :
    let chunks : Chunks := ⟨fun _ => 1024, fun _ => Nat.le_refl _⟩
    let payload := List.replicate 2039 0x61 ++ syncMarker ++ List.replicate 57 0x61
    ∃ sent ∈ (Deflate.new storedEngine).run storedEngine chunks 2 false [⟨[], payload⟩],
      sent.Producing storedEngine ∧ ¬ sent.Complete := by
  decide +kernel

end Yawc
