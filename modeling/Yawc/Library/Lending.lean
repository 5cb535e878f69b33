import Mathlib

/-! Idle objects kept in bounded queues, one queue for each slot, and what is
known of an object taken from its slot. -/

namespace Lending

universe u v

/-- A first-in first-out queue of limited length. -/
structure Queue (Object : Type u) where
  capacity : Nat
  items : List Object
  bounded : items.length ≤ capacity

variable {Object : Type u} {Slot : Type v}

namespace Queue

def new (capacity : Nat) : Queue Object where
  capacity := capacity
  items := []
  bounded := Nat.zero_le capacity

/-- A full queue drops the object. -/
def push (self : Queue Object) (object : Object) : Queue Object :=
  if room : self.items.length < self.capacity then
    { self with
      items := self.items ++ [object]
      bounded := by simpa using room }
  else self

def pop (self : Queue Object) : Option Object × Queue Object :=
  (self.items.head?,
    { self with
      items := self.items.tail
      bounded := by
        rw [List.length_tail]
        exact Nat.le_trans (Nat.sub_le _ _) self.bounded })

private theorem mem_push {self : Queue Object} {object other : Object}
    (member : other ∈ (self.push object).items) : other ∈ self.items ∨ other = object := by
  unfold push at member
  split at member
  · simpa using member
  · exact .inl member

private theorem mem_of_pop {self : Queue Object} {object : Object}
    (popped : self.pop.1 = some object) :
    object ∈ self.items :=
  List.mem_of_head? popped

private theorem capacity_push (self : Queue Object) (object : Object) :
    (self.push object).capacity = self.capacity := by
  unfold push
  split
  · rfl
  · rfl

private theorem mem_of_mem_pop {self : Queue Object} {object : Object}
    (member : object ∈ self.pop.2.items) :
    object ∈ self.items :=
  List.mem_of_mem_tail member

end Queue

/-- The idle objects by slot. -/
abbrev Shelf (Slot : Type v) (Object : Type u) := Slot → Queue Object

namespace Shelf

variable [DecidableEq Slot]

def take (self : Shelf Slot Object) (slot : Slot) : Option Object × Shelf Slot Object :=
  ((self slot).pop.1, Function.update self slot (self slot).pop.2)

def put (self : Shelf Slot Object) (slot : Slot) (object : Object) : Shelf Slot Object :=
  Function.update self slot ((self slot).push object)

/-- Every idle object fits its slot. -/
def Sorted (fits : Slot → Object → Prop) (self : Shelf Slot Object) : Prop :=
  ∀ slot, ∀ object ∈ (self slot).items, fits slot object

variable {fits : Slot → Object → Prop} {self : Shelf Slot Object} {slot : Slot} {object : Object}

omit [DecidableEq Slot] in
theorem Sorted.new (capacity : Nat) : Sorted fits fun _ : Slot => Queue.new capacity := by
  intro slot object member
  simp [Queue.new] at member

/-- What is taken from a slot fits it. -/
theorem Sorted.taken (sorted : Sorted fits self) (taken : (self.take slot).1 = some object) :
    fits slot object :=
  sorted slot object (Queue.mem_of_pop taken)

theorem Sorted.take (sorted : Sorted fits self) : Sorted fits (self.take slot).2 := by
  intro other object member
  by_cases same : other = slot
  · subst same
    simp only [Shelf.take, Function.update_self] at member
    exact sorted other object (Queue.mem_of_mem_pop member)
  · simp only [Shelf.take, Function.update_of_ne same] at member
    exact sorted other object member

theorem Sorted.put (sorted : Sorted fits self) (fitting : fits slot object) :
    Sorted fits (self.put slot object) := by
  intro other idle member
  by_cases same : other = slot
  · subst same
    rw [Shelf.put, Function.update_self] at member
    rcases Queue.mem_push member with old | rfl
    · exact sorted other idle old
    · exact fitting
  · rw [Shelf.put, Function.update_of_ne same] at member
    exact sorted other idle member

/-- Queues keep their capacity. -/
theorem capacity_take (self : Shelf Slot Object) (slot other : Slot) :
    ((self.take slot).2 other).capacity = (self other).capacity := by
  by_cases same : other = slot
  · subst same
    simp only [take, Function.update_self]
    rfl
  · simp only [take, Function.update_of_ne same]

theorem capacity_put (self : Shelf Slot Object) (slot other : Slot) (object : Object) :
    ((self.put slot object) other).capacity = (self other).capacity := by
  by_cases same : other = slot
  · subst same
    rw [put, Function.update_self, Queue.capacity_push]
  · rw [put, Function.update_of_ne same]

end Shelf

end Lending
