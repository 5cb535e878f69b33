import Mathlib.Data.List.Basic

/-! Byte memory with a record of what was read and written. -/

namespace Memory

/-- The bytes from an address on. -/
def read (memory : Nat → UInt8) (address size : Nat) : List UInt8 :=
  (List.range size).map fun index => memory (address + index)

/-- The memory with bytes written from an address on. -/
def write (memory : Nat → UInt8) (address : Nat) (bytes : List UInt8) (place : Nat) : UInt8 :=
  if address ≤ place then (bytes[place - address]?).getD (memory place) else memory place

section Contents

variable {memory other : Nat → UInt8} {address size place : Nat} {bytes : List UInt8}

@[simp] theorem length_read (memory : Nat → UInt8) (address size : Nat) :
    (read memory address size).length = size := by
  simp [read]

theorem getElem?_read {index : Nat} (inside : index < size) :
    (read memory address size)[index]? = some (memory (address + index)) := by
  simp [read, inside]

theorem read_congr (same : ∀ index, index < size → memory (address + index) = other (address + index)) :
    read memory address size = read other address size := by
  apply List.map_congr_left
  intro index member
  exact same index (List.mem_range.mp member)

theorem write_outside (outside : place < address ∨ address + bytes.length ≤ place) :
    write memory address bytes place = memory place := by
  unfold write
  split
  · rw [List.getElem?_eq_none (by omega), Option.getD_none]
  · rfl

theorem write_inside (behind : address ≤ place) {byte : UInt8}
    (found : bytes[place - address]? = some byte) : write memory address bytes place = byte := by
  rw [write, if_pos behind, found, Option.getD_some]

end Contents

/-- A stretch of addresses. -/
structure Span where
  start : Nat
  size : Nat
  deriving DecidableEq

/-- The stretch lies in the one given by its start and size. -/
def Span.Within (self : Span) (start size : Nat) : Prop :=
  start ≤ self.start ∧ self.start + self.size ≤ start + size

/-- Memory, and the stretches read and written so far. -/
structure Machine where
  memory : Nat → UInt8
  reads : List Span
  writes : List Span

namespace Machine

def load (self : Machine) (address size : Nat) : List UInt8 × Machine :=
  (read self.memory address size,
    { self with reads := self.reads ++ [{ start := address, size }] })

def store (self : Machine) (address : Nat) (bytes : List UInt8) : Machine :=
  { self with
    memory := write self.memory address bytes
    writes := self.writes ++ [{ start := address, size := bytes.length }] }

@[simp] theorem load_fst (self : Machine) (address size : Nat) :
    (self.load address size).1 = read self.memory address size := rfl

@[simp] theorem load_memory (self : Machine) (address size : Nat) :
    (self.load address size).2.memory = self.memory := rfl

@[simp] theorem store_memory (self : Machine) (address : Nat) (bytes : List UInt8) :
    (self.store address bytes).memory = write self.memory address bytes := rfl

/-- What was read and written since lies in two stretches. -/
structure Confined (source target size : Nat) (before after : Machine) : Prop where
  reads : ∀ span ∈ after.reads, span ∈ before.reads ∨ span.Within source size
  writes : ∀ span ∈ after.writes, span ∈ before.writes ∨ span.Within target size

variable {source target size address count : Nat} {before after : Machine} {bytes : List UInt8}

theorem Confined.refl (source target size : Nat) (self : Machine) :
    Confined source target size self self :=
  ⟨fun _ => .inl, fun _ => .inl⟩

theorem Confined.load (confined : Confined source target size before after)
    (low : source ≤ address) (high : address + count ≤ source + size) :
    Confined source target size before (after.load address count).2 := by
  refine ⟨?_, confined.writes⟩
  intro span member
  rcases List.mem_append.mp member with old | new
  · exact confined.reads span old
  · rw [List.mem_singleton.mp new]
    exact .inr ⟨low, high⟩

theorem Confined.store (confined : Confined source target size before after)
    (low : target ≤ address) (high : address + bytes.length ≤ target + size) :
    Confined source target size before (after.store address bytes) := by
  refine ⟨confined.reads, ?_⟩
  intro span member
  rcases List.mem_append.mp member with old | new
  · exact confined.writes span old
  · rw [List.mem_singleton.mp new]
    exact .inr ⟨low, high⟩

end Machine

end Memory
