import Yawc.Compression.Sharing
import Yawc.Compression.Stored

/-! What inflating comes to with any inflater: how long it takes and how much it
can produce. -/

namespace Yawc.Pooling

/-- All that is assumed of flate2 here: a call takes no more than its input and
writes no more than its chunk. -/
structure Codec.Bounded {Settings Flush Object : Type} (codec : Codec Settings Flush Object) :
    Prop where
  consumed : ∀ object input room flush,
    (codec.call object input room flush).consumed ≤ input.length
  written : ∀ object input room flush,
    (codec.call object input room flush).written.length ≤ room

/-- The objects beside a count of the bytes they ever wrote. -/
def Codec.counting {Settings Flush Object : Type} (codec : Codec Settings Flush Object) :
    Codec Settings Flush (Object × Nat) where
  new settings := (codec.new settings, 0)
  newWithWindowBits settings window := (codec.newWithWindowBits settings window, 0)
  call object input room flush :=
    let called := codec.call object.1 input room flush
    { status := called.status
      consumed := called.consumed
      written := called.written
      next := (called.next, object.2 + called.written.length) }
  reset object := (codec.reset object.1, object.2)

namespace Inflate

variable {Decompress : Type} {flate : Codec Unit FlushDecompress Decompress} {maxOutputSize : Nat}

/-- The inflater with its count at 0. -/
def counted (self : Inflate Decompress) : Inflate (Decompress × Nat) :=
  { output := self.output, decompressor := (self.decompressor, 0), streamEnded := self.streamEnded }

def forget (self : Inflate (Decompress × Nat)) : Inflate Decompress :=
  { output := self.output, decompressor := self.decompressor.1, streamEnded := self.streamEnded }

section Counting

/-- Two choices by one condition, of which the first maps the second. -/
theorem ite_map {α β : Type} {first second : Prop} [Decidable first] [Decidable second]
    (same : first ↔ second) (f : α → β) {yes no : β} {yes' no' : α} (left : yes = f yes')
    (right : no = f no') : (if first then yes else no) = f (if second then yes' else no') := by
  by_cases chosen : second
  · rw [if_pos (same.mpr chosen), if_pos chosen, left]
  · rw [if_neg (fun yes => chosen (same.mp yes)), if_neg chosen, right]

/-- The count changes nothing. -/
theorem writeRound_forget (self : Inflate (Decompress × Nat)) (input : Bytes) (room : Nat) :
    self.forget.writeRound flate input room maxOutputSize =
      (self.writeRound flate.counting input room maxOutputSize).map id forget := by
  unfold writeRound
  refine ite_map Iff.rfl (Prod.map id forget) rfl ?_
  simp only [Codec.counting, forget]
  split
  · rfl
  · exact ite_map Iff.rfl (Prod.map id forget) rfl rfl
  · exact ite_map Iff.rfl (Prod.map id forget) rfl rfl
  · rfl

theorem write_forget (rooms : List Room) (self : Inflate (Decompress × Nat)) (input : Bytes) :
    self.forget.write flate maxOutputSize rooms input =
      (self.write flate.counting maxOutputSize rooms input).map (Prod.map id forget) := by
  induction rooms generalizing self input with
  | nil =>
    cases input with
    | nil => rfl
    | cons byte bytes => exact ite_map Iff.rfl (Option.map (Prod.map id forget)) rfl rfl
  | cons room rooms ih =>
    cases input with
    | nil => rfl
    | cons byte bytes =>
      rw [write, write]
      refine ite_map Iff.rfl (Option.map (Prod.map id forget)) rfl ?_
      rw [writeRound_forget]
      rcases self.writeRound flate.counting (byte :: bytes) room maxOutputSize with
        ⟨error | ⟨_ | _, consumed⟩, next⟩
      · rfl
      · exact ih next _
      · rfl

private theorem flush_forget (rooms : List Room) (mode : FlushDecompress)
    (self : Inflate (Decompress × Nat)) :
    self.forget.flush flate maxOutputSize mode rooms =
      (self.flush flate.counting maxOutputSize mode rooms).map (Prod.map id forget) := by
  induction rooms generalizing self mode with
  | nil => exact ite_map Iff.rfl (Option.map (Prod.map id forget)) rfl rfl
  | cons room rooms ih =>
    rw [flush, flush]
    refine ite_map Iff.rfl (Option.map (Prod.map id forget)) rfl ?_
    have later := ih .noFlush
      { self with
        output := self.output ++ (flate.call self.decompressor.1 []
          (min room.1 (maxOutputSize - self.output.length)) mode).written
        decompressor := (flate.counting.call self.decompressor []
          (min room.1 (maxOutputSize - self.output.length)) mode).next }
    simp only [Codec.counting, forget] at later ⊢
    split
    · rfl
    · exact ite_map Iff.rfl (Option.map (Prod.map id forget)) rfl later

private theorem endMessage_forget (rooms : List Room) (self : Inflate (Decompress × Nat)) :
    self.forget.endMessage flate rooms maxOutputSize =
      (self.endMessage flate.counting rooms maxOutputSize).map (Prod.map id forget) := by
  have reset (next : Inflate (Decompress × Nat)) :
      (if next.forget.streamEnded then next.forget.reset flate else next.forget) =
        forget (if next.streamEnded then next.reset flate.counting else next) :=
    ite_map Iff.rfl forget rfl rfl
  have same : self.forget.streamEnded = self.streamEnded := rfl
  simp only [endMessage, same, write_forget]
  by_cases ended : self.streamEnded
  · simp only [ended, ↓reduceIte, flush_forget]
    rcases self.flush flate.counting maxOutputSize .syncFlush rooms with _ | ⟨error | bytes, next⟩
    · rfl
    · rfl
    · simp only [Option.map_some, Prod.map_apply, id_eq, reset]
  · simp only [ended, Bool.false_eq_true, ↓reduceIte]
    rcases self.write flate.counting maxOutputSize rooms syncMarker with
      _ | ⟨error | left, middle⟩
    · rfl
    · rfl
    · simp only [Option.map_some, Prod.map_apply, id_eq, flush_forget]
      rcases middle.flush flate.counting maxOutputSize .syncFlush left with
        _ | ⟨error | bytes, next⟩
      · rfl
      · rfl
      · simp only [Option.map_some, Prod.map_apply, id_eq, reset]

private theorem decompress_forget (rooms : List Room) (self : Inflate (Decompress × Nat))
    (input : Bytes)
    (streamEnd : Bool) :
    self.forget.decompress flate rooms input streamEnd maxOutputSize =
      (self.decompress flate.counting rooms input streamEnd maxOutputSize).map
        (Prod.map id forget) := by
  simp only [decompress, write_forget]
  by_cases none : maxOutputSize = 0
  · simp only [none, ↓reduceIte]
    rfl
  · simp only [none, ↓reduceIte]
    rcases self.write flate.counting maxOutputSize rooms input with
      _ | ⟨error | left, next⟩
    · rfl
    · rfl
    · cases streamEnd with
      | false => rfl
      | true => exact endMessage_forget left next

end Counting

section Progress

/-- All that was written is in the output. -/
def Metered (self : Inflate (Decompress × Nat)) : Prop :=
  self.decompressor.2 = self.output.length

/-- A call of the counted codec writes what it counts and no more than its chunk. -/
theorem counting_call (bounded : flate.Bounded) (object : Decompress × Nat) (input : Bytes)
    (room : Nat) (mode : FlushDecompress) :
    (flate.counting.call object input room mode).consumed ≤ input.length ∧
      (flate.counting.call object input room mode).written.length ≤ room ∧
      (flate.counting.call object input room mode).next.2 =
        object.2 + (flate.counting.call object input room mode).written.length :=
  ⟨bounded.consumed .., bounded.written .., rfl⟩

/-- A round stays within the limit. One that goes on has taken input or written
output. -/
theorem writeRound_within (bounded : flate.Bounded) {self next : Inflate (Decompress × Nat)}
    (metered : self.Metered) (below : self.output.length ≤ maxOutputSize) {input : Bytes}
    {room : Nat} {result : Result (Bool × Nat)}
    (done : self.writeRound flate.counting input room maxOutputSize = (result, next)) :
    next.Metered ∧ next.output.length ≤ maxOutputSize ∧
      self.output.length ≤ next.output.length ∧
      ∀ ended consumed, result = .ok (ended, consumed) →
        next.output.length < maxOutputSize ∧ consumed ≤ input.length ∧
        (ended = false → 0 < consumed ∨ self.output.length < next.output.length) := by
  obtain ⟨taken, fits, counts⟩ := counting_call bounded self.decompressor input
    (min room (maxOutputSize - self.output.length)) .noFlush
  simp only [writeRound] at done
  generalize flate.counting.call self.decompressor input
    (min room (maxOutputSize - self.output.length)) .noFlush = called at done taken fits counts
  obtain ⟨status, consumed, written, object⟩ := called
  dsimp only at done taken fits counts
  have grown : written.length ≤ maxOutputSize - self.output.length :=
    fits.trans (Nat.min_le_right ..)
  have reached : next = { self with output := self.output ++ written, decompressor := object } := by
    split at done
    · exact (Prod.mk.inj done).2.symm
    · split at done
      · exact (Prod.mk.inj done).2.symm
      · split at done <;> exact (Prod.mk.inj done).2.symm
      · split at done <;> exact (Prod.mk.inj done).2.symm
      · exact (Prod.mk.inj done).2.symm
  have size : next.output.length = self.output.length + written.length := by
    rw [reached, List.length_append]
  have progress (moved : ¬ (consumed = 0 ∧ written.isEmpty)) :
      0 < consumed ∨ self.output.length < next.output.length := by
    by_contra stuck
    exact moved ⟨by omega, by rw [List.isEmpty_iff_length_eq_zero]; omega⟩
  refine ⟨?_, by omega, by omega, ?_⟩
  · rw [Metered, size, reached, counts, metered]
  · rintro ended taken' rfl
    split at done
    · simp at done
    · rename_i room'
      rw [List.length_append] at room'
      refine ⟨by omega, ?_⟩
      split at done
      · simp only [Prod.mk.injEq, Except.ok.injEq] at done
        obtain ⟨⟨rfl, rfl⟩, -⟩ := done
        exact ⟨taken, by simp⟩
      · split at done
        · simp at done
        · rename_i moved
          simp only [Prod.mk.injEq, Except.ok.injEq] at done
          obtain ⟨⟨rfl, rfl⟩, -⟩ := done
          exact ⟨taken, fun _ => progress moved⟩
      · split at done
        · simp at done
        · rename_i moved
          simp only [Prod.mk.injEq, Except.ok.injEq] at done
          obtain ⟨⟨rfl, rfl⟩, -⟩ := done
          exact ⟨taken, fun _ => progress moved⟩
      · simp at done

/-- The write loop ends: what is left of the input and of the limit shrinks with
every round. -/
theorem write_within (bounded : flate.Bounded) {rooms : List Room}
    {self : Inflate (Decompress × Nat)} (metered : self.Metered)
    (below : self.output.length ≤ maxOutputSize) {input : Bytes}
    (enough : input.length + (maxOutputSize - self.output.length) ≤ rooms.length) :
    ∃ result next, self.write flate.counting maxOutputSize rooms input = some (result, next) ∧
      next.Metered ∧ next.output.length ≤ maxOutputSize ∧
      ∀ left, result = .ok left →
        rooms.length ≤ left.length + (input.length + (maxOutputSize - self.output.length)) ∧
        (self.output.length < maxOutputSize → next.output.length < maxOutputSize) := by
  induction rooms generalizing self input with
  | nil =>
    cases input with
    | nil =>
      refine ⟨.ok [], self, rfl, metered, below, ?_⟩
      rintro left ⟨⟩
      exact ⟨by simp, id⟩
    | cons byte bytes => simp at enough
  | cons room rooms ih =>
    cases input with
    | nil =>
      refine ⟨.ok (room :: rooms), self, rfl, metered, below, ?_⟩
      rintro left ⟨⟩
      exact ⟨by simp, id⟩
    | cons byte bytes =>
      rw [write]
      by_cases full : maxOutputSize ≤ self.output.length
      · refine ⟨.error .frameTooLarge, self, by simp [full], metered, below, by simp⟩
      · rw [if_neg full]
        rcases call : self.writeRound flate.counting (byte :: bytes) room maxOutputSize with
          ⟨error | ⟨ended, consumed⟩, next⟩
        · obtain ⟨metered', below', -⟩ := writeRound_within bounded metered below call
          exact ⟨.error error, next, rfl, metered', below', by simp⟩
        · obtain ⟨metered', below', grown, moved⟩ := writeRound_within bounded metered below call
          obtain ⟨room', taken, progress⟩ := moved ended consumed rfl
          cases ended with
          | true =>
            refine ⟨.ok rooms, { next with streamEnded := true }, rfl, metered', below', ?_⟩
            rintro left ⟨⟩
            simp only [List.length_cons]
            exact ⟨by omega, fun _ => room'⟩
          | false =>
            have shorter := progress rfl
            have length : ((byte :: bytes).drop consumed).length = bytes.length + 1 - consumed :=
              List.length_drop ..
            simp only [List.length_cons] at enough taken
            obtain ⟨result, final, ran, metered'', below'', left'⟩ :=
              ih metered' below' (show ((byte :: bytes).drop consumed).length +
                (maxOutputSize - next.output.length) ≤ rooms.length by omega)
            refine ⟨result, final, ran, metered'', below'', ?_⟩
            intro left ok
            obtain ⟨spent, strict⟩ := left' left ok
            simp only [List.length_cons] at spent ⊢
            exact ⟨by omega, fun _ => strict room'⟩

/-- Whether a round is the first, which may go on without output. -/
def extraRound : FlushDecompress → Nat
  | .syncFlush => 1
  | .noFlush => 0

/-- The flush loop ends: behind its first round it only goes on with output. -/
theorem flush_within (bounded : flate.Bounded) {rooms : List Room} {mode : FlushDecompress}
    {self : Inflate (Decompress × Nat)} (metered : self.Metered)
    (below : self.output.length ≤ maxOutputSize)
    (enough : extraRound mode + 1 + (maxOutputSize - self.output.length) ≤ rooms.length) :
    ∃ result next, self.flush flate.counting maxOutputSize mode rooms = some (result, next) ∧
      next.decompressor.2 ≤ maxOutputSize ∧
      ∀ bytes, result = .ok bytes → bytes.length < maxOutputSize ∧ next.output = [] := by
  induction rooms generalizing self mode with
  | nil =>
    rw [List.length_nil] at enough
    omega
  | cons room rooms ih =>
    rw [flush]
    by_cases full : maxOutputSize ≤ self.output.length
    · refine ⟨.error .frameTooLarge, self, by simp [full], ?_, by simp⟩
      rw [metered]
      exact below
    · rw [if_neg full]
      obtain ⟨-, fits, counts⟩ := counting_call bounded self.decompressor []
        (min room.1 (maxOutputSize - self.output.length)) mode
      generalize flate.counting.call self.decompressor []
        (min room.1 (maxOutputSize - self.output.length)) mode = called at fits counts ⊢
      obtain ⟨status, consumed, written, object⟩ := called
      dsimp only at fits counts ⊢
      have grown : written.length ≤ maxOutputSize - self.output.length :=
        fits.trans (Nat.min_le_right ..)
      rw [metered] at counts
      cases status with
      | error text =>
        refine ⟨_, _, rfl, ?_, by simp⟩
        dsimp only
        omega
      | ok status =>
        dsimp only
        by_cases last : written.isEmpty ∧ mode = .noFlush
        · refine ⟨.ok self.output, { self with output := [], decompressor := object },
            by rw [if_pos last], ?_, ?_⟩
          · dsimp only
            omega
          · rintro bytes ⟨⟩
            exact ⟨Nat.lt_of_not_le full, rfl⟩
        · rw [if_neg last]
          have size : (self.output ++ written).length = self.output.length + written.length :=
            List.length_append
          apply ih
          · rw [Metered, size, counts]
          · rw [size]
            omega
          · rw [size]
            rw [List.length_cons] at enough
            have moved : extraRound mode = 1 ∨ 0 < written.length := by
              cases mode with
              | syncFlush => exact .inl rfl
              | noFlush =>
                right
                rw [List.length_pos_iff]
                intro none
                exact last ⟨by simp [none], rfl⟩
            simp only [extraRound]
            omega

/-- Rounds after which any call has returned. -/
def rounds (input : Bytes) (maxOutputSize : Nat) : Nat :=
  (input.length + maxOutputSize) + (syncMarker.length + maxOutputSize) + (2 + maxOutputSize)

private theorem endMessage_within (bounded : flate.Bounded) {rooms : List Room}
    {self : Inflate (Decompress × Nat)} (metered : self.Metered)
    (below : self.output.length ≤ maxOutputSize)
    (enough : (syncMarker.length + maxOutputSize) + (2 + maxOutputSize) ≤ rooms.length) :
    ∃ result next, self.endMessage flate.counting rooms maxOutputSize = some (result, next) ∧
      next.decompressor.2 ≤ maxOutputSize ∧
      ∀ bytes, result = .ok bytes → bytes.length < maxOutputSize ∧ next.output = [] := by
  obtain ⟨outcome, middle, written, metered', below', left'⟩ : ∃ outcome middle,
      (if self.streamEnded then some (.ok rooms, self)
        else self.write flate.counting maxOutputSize rooms syncMarker) = some (outcome, middle) ∧
      middle.Metered ∧ middle.output.length ≤ maxOutputSize ∧
      ∀ left, outcome = .ok left → 2 + maxOutputSize ≤ left.length := by
    by_cases ended : self.streamEnded
    · refine ⟨.ok rooms, self, by rw [if_pos ended], metered, below, ?_⟩
      rintro left ⟨⟩
      omega
    · rw [if_neg ended]
      obtain ⟨outcome, middle, written, metered', below', left'⟩ :=
        write_within bounded metered below
          (show syncMarker.length + (maxOutputSize - self.output.length) ≤ rooms.length by omega)
      refine ⟨outcome, middle, written, metered', below', ?_⟩
      intro left ok
      have := (left' left ok).1
      omega
  simp only [endMessage, written]
  cases outcome with
  | error error =>
    refine ⟨_, _, rfl, ?_, by simp⟩
    rw [metered']
    exact below'
  | ok left =>
    have enough' := left' left rfl
    obtain ⟨result, next, flushed, count, done⟩ := flush_within bounded metered' below'
      (show extraRound .syncFlush + 1 + (maxOutputSize - middle.output.length) ≤ left.length by
        simp only [extraRound]
        omega)
    simp only [flushed]
    cases result with
    | error error => exact ⟨_, _, rfl, count, done⟩
    | ok bytes =>
      refine ⟨_, _, rfl, ?_, ?_⟩
      -- A final block is forgotten, but not what it produced.
      · split
        · exact count
        · exact count
      · intro bytes' ok
        obtain ⟨short, empty⟩ := done bytes' ok
        refine ⟨short, ?_⟩
        split
        · exact empty
        · exact empty

theorem decompress_within (bounded : flate.Bounded) {rooms : List Room} {self : Inflate Decompress}
    (empty : self.output = []) {input : Bytes} (streamEnd : Bool)
    (enough : rounds input maxOutputSize ≤ rooms.length) :
    ∃ result next,
      self.counted.decompress flate.counting rooms input streamEnd maxOutputSize =
        some (result, next) ∧
      self.decompress flate rooms input streamEnd maxOutputSize = some (result, next.forget) ∧
      next.decompressor.2 ≤ maxOutputSize ∧
      ∀ bytes, result = .ok bytes → bytes.length < maxOutputSize ∧ next.output = [] := by
  have started : self.counted.Metered ∧ self.counted.output.length = 0 := by
    simp [Metered, counted, empty]
  obtain ⟨metered, none⟩ := started
  suffices counting : ∃ result next,
      self.counted.decompress flate.counting rooms input streamEnd maxOutputSize =
        some (result, next) ∧
      next.decompressor.2 ≤ maxOutputSize ∧
      ∀ bytes, result = .ok bytes → bytes.length < maxOutputSize ∧ next.output = [] by
    obtain ⟨result, next, ran, rest⟩ := counting
    refine ⟨result, next, ran, ?_, rest⟩
    have same : self.decompress flate rooms input streamEnd maxOutputSize = _ :=
      decompress_forget rooms self.counted input streamEnd
    rw [same, ran]
    rfl
  rw [decompress]
  by_cases closed : maxOutputSize = 0
  · refine ⟨.error .frameTooLarge, self.counted, by rw [if_pos closed], ?_, by simp⟩
    exact Nat.zero_le _
  · rw [if_neg closed]
    unfold rounds at enough
    obtain ⟨outcome, middle, written, metered', below', left'⟩ :=
      write_within bounded metered (show self.counted.output.length ≤ maxOutputSize by omega)
        (show input.length + (maxOutputSize - self.counted.output.length) ≤ rooms.length by omega)
    rw [written]
    cases outcome with
    | error error =>
      refine ⟨_, _, rfl, ?_, by simp⟩
      rw [metered']
      exact below'
    | ok left =>
      obtain ⟨spent, strict⟩ := left' left rfl
      cases streamEnd with
      | true => exact endMessage_within bounded metered' below' (by omega)
      | false =>
        refine ⟨_, _, rfl, ?_, ?_⟩
        · exact metered'.trans_le below'
        · rintro bytes ⟨⟩
          exact ⟨strict (by omega), rfl⟩

end Progress

section Emptied

variable {self next : Inflate Decompress} {rooms : List Room} {bytes : Bytes}

/-- A call that succeeds hands all of its output out. -/
theorem flush_emptied {mode : FlushDecompress}
    (done : self.flush flate maxOutputSize mode rooms = some (.ok bytes, next)) :
    next.output = [] := by
  induction rooms generalizing self mode with
  | nil =>
    simp only [flush] at done
    split at done <;> simp at done
  | cons room rooms ih =>
    simp only [flush] at done
    split at done
    · simp at done
    · split at done
      · simp at done
      · split at done
        · simp only [Option.some.injEq, Prod.mk.injEq] at done
          rw [← done.2]
        · exact ih done

private theorem endMessage_emptied
    (done : self.endMessage flate rooms maxOutputSize = some (.ok bytes, next)) :
    next.output = [] := by
  simp only [endMessage] at done
  split at done
  · simp at done
  · simp at done
  · split at done
    · rename_i flushed
      have empty := flush_emptied flushed
      simp only [Option.some.injEq, Prod.mk.injEq] at done
      rw [← done.2]
      split
      · exact empty
      · exact empty
    · exact flush_emptied done

private theorem decompress_emptied {input : Bytes} {streamEnd : Bool}
    (done : self.decompress flate rooms input streamEnd maxOutputSize = some (.ok bytes, next)) :
    next.output = [] := by
  unfold decompress at done
  split at done
  · simp at done
  · split at done
    · simp at done
    · simp at done
    · split at done
      · exact endMessage_emptied done
      · simp only [takeOutput, Option.some.injEq, Prod.mk.injEq] at done
        rw [← done.2]

end Emptied

end Inflate

section Reachable

variable {Compress Decompress Party : Type} {backend : Backend}
variable {flate : Flate2 Compress Decompress}

/-- No idle inflater holds output. -/
def DeflatePool.Emptied (pool : DeflatePool backend Compress Decompress) : Prop :=
  ∀ shared, pool.shared = some shared →
    Lending.Shelf.Sorted (fun _ inflate => inflate.output = []) shared.inflate

def Decompressor.Emptied (decompressor : Decompressor Decompress) : Prop :=
  ∀ inflate, decompressor.inflate = some inflate → inflate.output = []

namespace Decompressor

variable {self : Decompressor Decompress} {pool : DeflatePool backend Compress Decompress}

variable (flate) in
private theorem start_emptied (empty : self.Emptied) (idle : pool.Emptied) :
    (self.start flate.decompress pool).1.Emptied ∧ (self.start flate.decompress pool).2.Emptied ∧
      (self.start flate.decompress pool).1.inflate.isSome := by
  obtain ⟨held, config, pooled⟩ := self
  cases held with
  | some inflate => exact ⟨empty, idle, rfl⟩
  | none =>
    have built : (Inflate.build flate.decompress backend config.windowBits).output = [] := by
      unfold Inflate.build
      split
      · split <;> rfl
      · rfl
    cases pooled with
    | false =>
      refine ⟨?_, idle, rfl⟩
      rintro inflate ⟨⟩
      exact built
    | true =>
      simp only [start, ↓reduceIte, DeflatePool.takeInflate]
      cases shared : pool.shared with
      | none =>
        refine ⟨?_, idle, rfl⟩
        rintro inflate ⟨⟩
        exact built
      | some shelves =>
        have sorted := idle shelves shared
        refine ⟨?_, ?_, rfl⟩
        · rintro inflate ⟨⟩
          cases took : (shelves.inflate.take (slot backend config.windowBits)).1 with
          | none => exact built
          | some taken => exact sorted.taken took
        · rintro after ⟨⟩
          exact sorted.take

private theorem finish_emptied (idle : pool.Emptied) {rooms : List Room} {input : Bytes}
    {streamEnd : Bool} {maxOutputSize : Nat} {result : Result Bytes}
    {next : Decompressor Decompress} {pool' : DeflatePool backend Compress Decompress}
    (done : self.finish flate.decompress pool rooms input streamEnd maxOutputSize =
      some (result, next, pool')) : next.Emptied ∧ pool'.Emptied := by
  unfold finish at done
  split at done
  · simp at done
  · rename_i inflate _
    split at done
    · simp at done
    · rename_i outcome worked call
      dsimp only at done
      generalize cleared : (if outcome.isOk then worked else { worked with output := [] }) = left
        at done
      have empty : left.output = [] := by
        rw [← cleared]
        split
        · rename_i succeeded
          cases outcome with
          | ok bytes => exact Inflate.decompress_emptied call
          | error _ => simp [Except.isOk, Except.toBool] at succeeded
        · rfl
      split at done
      · split at done
        · simp only [Option.some.injEq, Prod.mk.injEq] at done
          obtain ⟨-, rfl, rfl⟩ := done
          refine ⟨by simp [Emptied], ?_⟩
          intro after keeps
          obtain ⟨shared, kept, rfl⟩ := Option.map_eq_some_iff.mp keeps
          exact (idle shared kept).put empty
        · simp only [Option.some.injEq, Prod.mk.injEq] at done
          obtain ⟨-, rfl, rfl⟩ := done
          refine ⟨?_, idle⟩
          rintro inflate ⟨⟩
          exact empty
      · simp only [Option.some.injEq, Prod.mk.injEq] at done
        obtain ⟨-, rfl, rfl⟩ := done
        refine ⟨?_, idle⟩
        rintro inflate ⟨⟩
        exact empty

end Decompressor

/-- A connection and the pool it uses hold no output between calls, and a call in
progress has its state. -/
structure Connection.Emptied (connection : Connection Compress Decompress)
    (pool : DeflatePool backend Compress Decompress) : Prop where
  idle : pool.Emptied
  held : connection.decompressor.Emptied
  calling : connection.decompressing.isSome → connection.decompressor.inflate.isSome

private theorem DeflatePool.Emptied.deflate {pool : DeflatePool backend Compress Decompress}
    (idle : pool.Emptied) {pool' : DeflatePool backend Compress Decompress}
    (same : pool'.shared.map (·.inflate) = pool.shared.map (·.inflate)) : pool'.Emptied := by
  intro shared keeps
  rw [keeps, Option.map_some, eq_comm, Option.map_eq_some_iff] at same
  obtain ⟨before, kept, equal⟩ := same
  rw [← equal]
  exact idle before kept

private theorem Compressor.start_inflate (self : Compressor Compress)
    (pool : DeflatePool backend Compress Decompress) :
    (self.start flate.compress pool).2.shared.map (·.inflate) = pool.shared.map (·.inflate) := by
  obtain ⟨held, level, config, pooled⟩ := self
  cases held with
  | some deflate => rfl
  | none =>
    cases pooled with
    | false => rfl
    | true =>
      simp only [start, ↓reduceIte, DeflatePool.takeDeflate]
      cases shared : pool.shared with
      | none => simp [shared]
      | some shelves => rfl

private theorem Compressor.finish_inflate {self next : Compressor Compress}
    {pool pool' : DeflatePool backend Compress Decompress} {rooms : List Room} {input : Bytes}
    {flush : Bool} {result : Result Bytes}
    (done : self.finish flate.compress pool rooms input flush = some (result, next, pool')) :
    pool'.shared.map (·.inflate) = pool.shared.map (·.inflate) := by
  unfold finish at done
  split at done
  · simp at done
  · split at done
    · simp at done
    · split at done
      · split at done
        · simp only [Option.some.injEq, Prod.mk.injEq] at done
          rw [← done.2.2, DeflatePool.putDeflate, Option.map_map]
          rfl
        · simp only [Option.some.injEq, Prod.mk.injEq] at done
          rw [← done.2.2]
      · simp only [Option.some.injEq, Prod.mk.injEq] at done
        rw [← done.2.2]

private theorem Connection.step_emptied {self next : Connection Compress Decompress}
    {pool pool' : DeflatePool backend Compress Decompress} {action : Action}
    {output : Option (Result Bytes)} (empty : self.Emptied pool)
    (taken : self.step flate pool action = some (output, next, pool')) : next.Emptied pool' := by
  obtain ⟨idle, held, calling⟩ := empty
  cases action with
  | compress input flush =>
    simp only [step] at taken
    split at taken
    · simp at taken
    · simp only [Option.some.injEq, Prod.mk.injEq] at taken
      obtain ⟨-, rfl, rfl⟩ := taken
      exact ⟨idle.deflate (self.compressor.start_inflate pool), held, calling⟩
  | compressed rooms =>
    simp only [step] at taken
    split at taken
    · simp at taken
    · simp only [Option.map_eq_some_iff, Prod.mk.injEq] at taken
      obtain ⟨⟨result, compressor, after⟩, done, -, rfl, rfl⟩ := taken
      exact ⟨idle.deflate (Compressor.finish_inflate done), held, calling⟩
  | decompress input streamEnd maxOutputSize =>
    simp only [step] at taken
    split at taken
    · simp at taken
    · simp only [Option.some.injEq, Prod.mk.injEq] at taken
      obtain ⟨-, rfl, rfl⟩ := taken
      obtain ⟨held', idle', some'⟩ := Decompressor.start_emptied flate held idle
      exact ⟨idle', held', fun _ => some'⟩
  | decompressed rooms =>
    simp only [step] at taken
    split at taken
    · simp at taken
    · simp only [Option.map_eq_some_iff, Prod.mk.injEq] at taken
      obtain ⟨⟨result, decompressor, after⟩, done, -, rfl, rfl⟩ := taken
      obtain ⟨held', idle'⟩ := Decompressor.finish_emptied idle done
      exact ⟨idle', held', by simp⟩

namespace System

variable [DecidableEq Party]

/-- No inflater holds output, whether a connection has it or the pool. -/
def Emptied (system : System Party backend Compress Decompress) : Prop :=
  system.pool.Emptied ∧ ∀ party, (system.connections party).Emptied system.pool

omit [DecidableEq Party] in
private theorem new_emptied (configs : Party → CompressionConfig) (capacity : Nat) (pooled : Bool) :
    (System.new configs capacity pooled : System Party backend Compress Decompress).Emptied := by
  have idle : (DeflatePool.new capacity : DeflatePool backend Compress Decompress).Emptied := by
    intro shared keeps
    simp only [DeflatePool.new] at keeps
    split at keeps
    · rw [← Option.some.inj keeps]
      exact .new capacity
    · simp at keeps
  refine ⟨idle, ?_⟩
  intro party
  exact ⟨idle, by simp [Decompressor.Emptied, System.new, Connection.new, decompressor], by
    simp [System.new, Connection.new]⟩

private theorem step_emptied {system next : System Party backend Compress Decompress}
    {called : Party × Action} {output : Option (Result Bytes)} (empty : system.Emptied)
    (taken : System.step flate system called = some (output, next)) : next.Emptied := by
  obtain ⟨party, action⟩ := called
  simp only [System.step, Option.map_eq_some_iff, Prod.mk.injEq] at taken
  obtain ⟨⟨result, connection, pool⟩, done, -, rfl⟩ := taken
  have mine := Connection.step_emptied (empty.2 party) done
  refine ⟨mine.idle, ?_⟩
  intro other
  by_cases same : other = party
  · subst same
    simpa using mine
  · simp only [Function.update_of_ne same]
    exact ⟨mine.idle, (empty.2 other).held, (empty.2 other).calling⟩

/-- In every state any number of connections on one pool can come to, a call that
inflates returns once it was given enough chunks, whatever the inflater does
within its bounds. It never produces more than the limit, succeeds only below
it, and leaves no output behind. -/
theorem inflation_bounded (bounded : flate.decompress.Bounded)
    (configs : Party → CompressionConfig) (capacity : Nat) (pooled : Bool)
    {trace : List ((Party × Action) × Option (Result Bytes))}
    {system : System Party backend Compress Decompress}
    (run : Trace.Run (System.step flate) (fun _ _ => True) (.new configs capacity pooled) trace
      system)
    (party : Party) {input : Bytes} {streamEnd : Bool} {maxOutputSize : Nat}
    (called : (system.connections party).decompressing = some (input, streamEnd, maxOutputSize)) :
    ∃ inflate, (system.connections party).decompressor.inflate = some inflate ∧
      ∀ rooms : List Room, Inflate.rounds input maxOutputSize ≤ rooms.length →
        ∃ result counted next,
          inflate.counted.decompress flate.decompress.counting rooms input streamEnd
            maxOutputSize = some (result, counted) ∧
          inflate.decompress flate.decompress rooms input streamEnd maxOutputSize =
            some (result, counted.forget) ∧
          counted.decompressor.2 ≤ maxOutputSize ∧
          (∀ bytes, result = .ok bytes → bytes.length < maxOutputSize) ∧
          System.step flate system (party, .decompressed rooms) = some (some result, next) ∧
          next.Emptied := by
  have empty : system.Emptied :=
    run.keeps (fun _ taken kept => step_emptied kept taken) (new_emptied configs capacity pooled)
  obtain ⟨-, held, calling⟩ := empty.2 party
  obtain ⟨inflate, mine⟩ := Option.isSome_iff_exists.mp (calling (by rw [called]; rfl))
  refine ⟨inflate, mine, ?_⟩
  intro rooms enough
  obtain ⟨result, counted, counting, ran, produced, returned⟩ :=
    Inflate.decompress_within bounded (held inflate mine) streamEnd enough
  obtain ⟨next, stepped⟩ : ∃ next,
      System.step flate system (party, .decompressed rooms) = some (some result, next) := by
    simp only [System.step, Connection.step, called, Decompressor.finish, mine, ran]
    split
    · split
      · exact ⟨_, rfl⟩
      · exact ⟨_, rfl⟩
    · exact ⟨_, rfl⟩
  exact ⟨result, counted, next, counting, ran, produced, fun bytes ok => (returned bytes ok).1,
    stepped, step_emptied empty stepped⟩

end System

end Reachable

theorem reading_bounded : reading.Bounded where
  consumed _ _ _ _ := Nat.le_refl _
  written _ _ _ _ := List.length_take_le _ _

/-- Two bytes in a stored block, under a limit of 16 bytes. -/
theorem inflation_bounded_stored :
    ∃ trace, ∃ system : System Bool .zlib Storing Reading,
      Trace.Run (System.step ⟨storing, reading⟩) (fun _ _ => True) (.new twoLevels 1 true) trace
        system ∧
      ∃ inflate, (system.connections true).decompressor.inflate = some inflate ∧
        ∀ rooms : List Room, Inflate.rounds (storedBlock [104, 105]) 16 ≤ rooms.length →
          ∃ result counted next,
            inflate.counted.decompress reading.counting rooms (storedBlock [104, 105]) true 16 =
              some (result, counted) ∧
            inflate.decompress reading rooms (storedBlock [104, 105]) true 16 =
              some (result, counted.forget) ∧
            counted.decompressor.2 ≤ 16 ∧
            (∀ bytes, result = .ok bytes → bytes.length < 16) ∧
            System.step ⟨storing, reading⟩ system (true, .decompressed rooms) =
              some (some result, next) ∧
            next.Emptied := by
  obtain ⟨trace, system, run, called⟩ :
      ∃ trace, ∃ system : System Bool .zlib Storing Reading,
        Trace.Run (System.step ⟨storing, reading⟩) (fun _ _ => True) (.new twoLevels 1 true) trace
          system ∧
        (system.connections true).decompressing = some (storedBlock [104, 105], true, 16) :=
    ⟨_, _, .of_exec [(true, .decompress (storedBlock [104, 105]) true 16)] rfl, rfl⟩
  exact ⟨trace, system, run,
    System.inflation_bounded reading_bounded twoLevels 1 true run true called⟩

end Yawc.Pooling
