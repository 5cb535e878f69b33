import Mathlib

/-! Interleavings of two sequences, as they grow at their ends. -/

universe u

variable {Item : Type u}

/-- The third list merges the first two, each in its own order. -/
inductive Interleaved : List Item → List Item → List Item → Prop where
  | nil : Interleaved [] [] []
  | left (item : Item) (rest : Interleaved first second merged) :
      Interleaved (first ++ [item]) second (merged ++ [item])
  | right (item : Item) (rest : Interleaved first second merged) :
      Interleaved first (second ++ [item]) (merged ++ [item])

namespace Interleaved

variable {first second merged : List Item}

theorem appendLeft (interleaved : Interleaved first second merged) (items : List Item) :
    Interleaved (first ++ items) second (merged ++ items) := by
  induction items generalizing first merged with
  | nil => simpa using interleaved
  | cons item items ih => simpa using ih (interleaved.left item)

theorem mem (interleaved : Interleaved first second merged) (item : Item) :
    item ∈ merged ↔ item ∈ first ∨ item ∈ second := by
  induction interleaved with
  | nil => simp
  | left other _ ih =>
    simp only [List.mem_append, List.mem_singleton, ih]
    grind
  | right other _ ih =>
    simp only [List.mem_append, List.mem_singleton, ih]
    grind

theorem eq_right (interleaved : Interleaved [] second merged) : merged = second := by
  generalize none : ([] : List Item) = first at interleaved
  induction interleaved with
  | nil => rfl
  | left item _ _ => simp at none
  | right item _ ih => rw [ih none]

private theorem eq_left (interleaved : Interleaved first [] merged) : merged = first := by
  generalize none : ([] : List Item) = second at interleaved
  induction interleaved with
  | nil => rfl
  | left item _ ih => rw [ih none]
  | right item _ _ => simp at none

/-- What only comes last comes behind all the rest. -/
theorem eq_append (interleaved : Interleaved first second merged)
    (last : ∀ item ∈ second, item ∉ merged.dropLast) : merged = first ++ second := by
  have behind {early : List Item} {front before : List Item}
      (rest : Interleaved before early front) (none : ∀ item ∈ early, item ∉ front) : early = [] := by
    refine List.eq_nil_iff_forall_not_mem.mpr fun item member => ?_
    exact none item member ((rest.mem item).mpr (.inr member))
  cases interleaved with
  | nil => rfl
  | left item rest =>
    obtain rfl := behind rest (by simpa using last)
    rw [rest.eq_left, List.append_nil]
  | right item rest =>
    obtain rfl := behind rest fun item member => by simpa using last item (by simp [member])
    rw [rest.eq_left, List.nil_append]

/-- A property that tells the two apart picks out the second. -/
theorem filter_eq (interleaved : Interleaved first second merged) (mine : Item → Bool)
    (other : ∀ item ∈ first, mine item = false) (own : ∀ item ∈ second, mine item) :
    merged.filter mine = second := by
  induction interleaved with
  | nil => rfl
  | left item _ ih =>
    rw [List.filter_append, ih (fun item member => other item (by simp [member])) own]
    simp [other item (by simp)]
  | right item _ ih =>
    rw [List.filter_append, ih other (fun item member => own item (by simp [member]))]
    simp [own item (by simp)]

end Interleaved
