import Mathlib

/-! A channel on which every listener gets all that is sent after it has joined. A
listener that falls behind may be told so instead. -/

namespace Broadcast

universe u

variable {Item : Type u}

inductive Received (Item : Type u) where
  | item (item : Item)
  | lagged
  | empty

/-- A channel, by what it tells a listener at a position in all that has been sent. An
item it tells is the next one. -/
structure Channel (Item : Type u) where
  recv : List Item → Nat → Received Item
  recv_item : ∀ {sent : List Item} {position : Nat} {item : Item},
    recv sent position = .item item → sent[position]? = some item

/-- A channel that keeps a bounded number of items. -/
def Channel.bounded (capacity : Nat) : Channel Item where
  recv sent position :=
    if position + capacity < sent.length then .lagged
    else
      match sent[position]? with
      | some item => .item item
      | none => .empty
  recv_item := by
    intro sent position item told
    split at told
    · cases told
    · split at told
      · rename_i found
        cases told
        exact found
      · cases told

/-- The items between two positions. -/
def heard (sent : List Item) (start position : Nat) : List Item :=
  (sent.drop start).take (position - start)

@[simp] theorem heard_start (sent : List Item) (start : Nat) : heard sent start start = [] := by
  simp [heard]

theorem heard_sublist (sent : List Item) (start position : Nat) :
    (heard sent start position).Sublist sent :=
  (List.take_sublist _ _).trans (List.drop_sublist _ _)

/-- What has been heard stays the same. -/
theorem heard_append {sent : List Item} {start position : Nat} (heard' : position ≤ sent.length)
    (more : List Item) : heard (sent ++ more) start position = heard sent start position := by
  unfold heard
  by_cases later : start ≤ sent.length
  · rw [List.drop_append_of_le_length later, List.take_append_of_le_length]
    rw [List.length_drop]
    omega
  · have none' : position - start = 0 := by omega
    simp [none']

/-- The next item comes behind the others. -/
theorem heard_next {sent : List Item} {start position : Nat} {item : Item}
    (joined : start ≤ position) (next : sent[position]? = some item) :
    heard sent start (position + 1) = heard sent start position ++ [item] := by
  have found : (sent.drop start)[position - start]? = some item := by
    rw [List.getElem?_drop, Nat.add_sub_cancel' joined]
    exact next
  have one : position + 1 - start = (position - start) + 1 := by omega
  rw [heard, heard, one, List.take_add_one, found]
  rfl

end Broadcast
