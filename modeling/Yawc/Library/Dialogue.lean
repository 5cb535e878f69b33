import Mathlib

/-! A dialogue over a stream: one side writes and reads in turn, and the other
may send anything and stop anywhere. -/

universe u v w

/-- What was done on the stream. -/
inductive Dialogue.Event (Item : Type u) where
  | wrote (items : List Item)
  | read (items : List Item)
  deriving DecidableEq

/-- The stream as one side has it: what has been or will be sent to it and is not
read, and what was done. -/
@[ext] structure Dialogue.Wire (Item : Type u) where
  unread : List Item
  log : List (Dialogue.Event Item)

/-- A part of a dialogue, which may fail. -/
def Dialogue (Item : Type u) (Error : Type v) (Value : Type w) :=
  Dialogue.Wire Item → Except Error Value × Dialogue.Wire Item

namespace Dialogue

variable {Item : Type u} {Error : Type v} {Value Other : Type w}

def bind (first : Dialogue Item Error Value) (next : Value → Dialogue Item Error Other) :
    Dialogue Item Error Other := fun wire =>
  match first wire with
  | (.error error, wire) => (.error error, wire)
  | (.ok value, wire) => next value wire

instance : Monad (Dialogue Item Error) where
  pure value := fun wire => (.ok value, wire)
  bind := bind

def fail (error : Error) : Dialogue Item Error Value := fun wire => (.error error, wire)

/-- The transport takes everything. -/
def writeAll (items : List Item) : Dialogue Item Error Unit := fun wire =>
  (.ok (), { wire with log := wire.log ++ [.wrote items] })

/-- Waits for that many items. If the stream ends before, those it had are gone. -/
def readExact (ended : Error) (size : Nat) : Dialogue Item Error (List Item) := fun wire =>
  if size ≤ wire.unread.length then
    (.ok (wire.unread.take size),
      { unread := wire.unread.drop size, log := wire.log ++ [.read (wire.unread.take size)] })
  else (.error ended, { unread := [], log := wire.log ++ [.read wire.unread] })

section Outcome

variable {wire final : Wire Item}

theorem bind_apply (first : Dialogue Item Error Value)
    (next : Value → Dialogue Item Error Other) (wire : Wire Item) :
    (first >>= next) wire = bind first next wire := rfl

@[simp] theorem bind_ok_iff {first : Dialogue Item Error Value}
    {next : Value → Dialogue Item Error Other} {value : Other} :
    (first >>= next) wire = (.ok value, final) ↔
      ∃ result middle, first wire = (.ok result, middle) ∧
        next result middle = (.ok value, final) := by
  rw [bind_apply, bind]
  rcases first wire with ⟨error | result, middle⟩ <;> simp

@[simp] theorem pure_ok_iff {value result : Value} :
    (pure value : Dialogue Item Error Value) wire = (.ok result, final) ↔
      value = result ∧ wire = final := by
  change (Except.ok value, wire) = _ ↔ _
  simp

@[simp] theorem fail_ok_iff {error : Error} {value : Value} :
    (fail error : Dialogue Item Error Value) wire = (.ok value, final) ↔ False := by
  simp [fail]

@[simp] theorem writeAll_ok_iff {items : List Item} {value : Unit} :
    (writeAll items : Dialogue Item Error Unit) wire = (.ok value, final) ↔
      final = { wire with log := wire.log ++ [.wrote items] } := by
  simp [writeAll, eq_comm]

/-- What is read is the front of the stream. -/
theorem readExact_ok_iff {ended : Error} {size : Nat} {items : List Item} :
    readExact ended size wire = (.ok items, final) ↔
      items.length = size ∧ wire.unread = items ++ final.unread ∧
        final.log = wire.log ++ [.read items] := by
  unfold readExact
  constructor
  · intro done
    split at done
    · rename_i enough
      simp only [Prod.mk.injEq, Except.ok.injEq] at done
      obtain ⟨rfl, rfl⟩ := done
      exact ⟨List.length_take_of_le enough, (List.take_append_drop ..).symm, rfl⟩
    · simp at done
  · rintro ⟨rfl, split, logged⟩
    have enough : items.length ≤ wire.unread.length := by
      rw [split, List.length_append]
      omega
    simp only [enough, ↓reduceIte, Prod.mk.injEq, Except.ok.injEq]
    refine ⟨by simp [split], ?_⟩
    ext1
    · simp [split]
    · simp [split, logged]

end Outcome

section Reading

/-- What was read so far. -/
def received (log : List (Event Item)) : List Item :=
  (log.filterMap fun
    | .read items => some items
    | .wrote _ => none).flatten

/-- Nothing of the stream is lost or read twice, whether the part fails or not. -/
def Faithful (part : Dialogue Item Error Value) : Prop :=
  ∀ wire, received (part wire).2.log ++ (part wire).2.unread = received wire.log ++ wire.unread

theorem Faithful.bind {first : Dialogue Item Error Value}
    {next : Value → Dialogue Item Error Other} (faithful : Faithful first)
    (later : ∀ value, Faithful (next value)) : Faithful (first >>= next) := by
  intro wire
  have before := faithful wire
  rw [bind_apply, Dialogue.bind]
  generalize first wire = result at before ⊢
  obtain ⟨error | value, middle⟩ := result
  · exact before
  · exact (later value middle).trans before

theorem Faithful.pure (value : Value) : Faithful (pure value : Dialogue Item Error Value) :=
  fun _ => rfl

theorem Faithful.fail (error : Error) : Faithful (fail error : Dialogue Item Error Value) :=
  fun _ => rfl

theorem Faithful.writeAll (items : List Item) :
    Faithful (writeAll items : Dialogue Item Error Unit) := by
  intro wire
  simp [Dialogue.writeAll, received]

theorem Faithful.readExact (ended : Error) (size : Nat) :
    Faithful (readExact ended size : Dialogue Item Error (List Item)) := by
  intro wire
  unfold Dialogue.readExact
  split
  · simp [received]
  · simp [received]

end Reading

section Writing

/-- What was written so far. -/
def written (log : List (Event Item)) : List Item :=
  (log.filterMap fun
    | .wrote items => some items
    | .read _ => none).flatten

theorem written_append (early late : List (Event Item)) :
    written (early ++ late) = written early ++ written late := by
  simp [written]

theorem written_eq_nil {log : List (Event Item)} (silent : ∀ items, .wrote items ∉ log) :
    written log = [] := by
  induction log with
  | nil => rfl
  | cons event log ih =>
    have later := ih fun items member => silent items (List.mem_cons_of_mem _ member)
    cases event with
    | wrote items => exact absurd List.mem_cons_self (silent items)
    | read items => exact later

/-- From this state on, the part writes only what it may write behind what was
done before. -/
def WritesOnly (allowed : List (Event Item) → List Item → Prop) (wire : Wire Item)
    (part : Dialogue Item Error Value) : Prop :=
  ∃ added, (part wire).2.log = wire.log ++ added ∧
    ∀ early items late, added = early ++ .wrote items :: late → allowed (wire.log ++ early) items

namespace WritesOnly

variable {allowed : List (Event Item) → List Item → Prop} {wire : Wire Item}

/-- A part that may write nothing only adds to the log what it reads. -/
theorem silent {part : Dialogue Item Error Value} (only : WritesOnly (fun _ _ => False) wire part) :
    ∃ added, (part wire).2.log = wire.log ++ added ∧ ∀ items, .wrote items ∉ added := by
  obtain ⟨added, logged, legal⟩ := only
  refine ⟨added, logged, ?_⟩
  intro items member
  obtain ⟨early, late, split⟩ := List.append_of_mem member
  exact legal early items late split

theorem bind {first : Dialogue Item Error Value} {next : Value → Dialogue Item Error Other}
    (only : WritesOnly allowed wire first)
    (later : ∀ value middle, first wire = (.ok value, middle) →
      WritesOnly allowed middle (next value)) : WritesOnly allowed wire (first >>= next) := by
  obtain ⟨added, logged, legal⟩ := only
  unfold WritesOnly
  rw [bind_apply, Dialogue.bind]
  cases ran : first wire with
  | mk result middle =>
    rw [ran] at logged
    dsimp only at logged
    cases result with
    | error error => exact ⟨added, logged, legal⟩
    | ok value =>
      obtain ⟨more, logged', legal'⟩ := later value middle ran
      refine ⟨added ++ more, by rw [logged', logged, List.append_assoc], ?_⟩
      intro early items late split
      rcases List.append_eq_append_iff.mp split with ⟨between, front, back⟩ | ⟨between, front, back⟩
      · have found := legal' between items late back
        rw [logged, List.append_assoc, ← front] at found
        exact found
      · cases between with
        | nil =>
          have found := legal' [] items late (by simpa using back.symm)
          rw [logged, front] at found
          simpa using found
        | cons event between =>
          simp only [List.cons_append, List.cons.injEq] at back
          exact legal early items between (by rw [front, back.1])

theorem pure (value : Value) :
    WritesOnly allowed wire (pure value : Dialogue Item Error Value) :=
  ⟨[], (List.append_nil _).symm, by simp⟩

theorem fail (error : Error) :
    WritesOnly allowed wire (fail error : Dialogue Item Error Value) :=
  ⟨[], (List.append_nil _).symm, by simp⟩

theorem readExact (ended : Error) (size : Nat) :
    WritesOnly allowed wire (readExact ended size : Dialogue Item Error (List Item)) := by
  have one (items : List Item) : ∀ early other late,
      [Event.read items] = early ++ .wrote other :: late → allowed (wire.log ++ early) other := by
    intro early other late split
    cases early <;> simp at split
  unfold WritesOnly Dialogue.readExact
  split
  · exact ⟨_, rfl, one _⟩
  · exact ⟨_, rfl, one _⟩

theorem writeAll {items : List Item} (may : allowed wire.log items) :
    WritesOnly allowed wire (writeAll items : Dialogue Item Error Unit) := by
  refine ⟨[.wrote items], rfl, ?_⟩
  intro early other late split
  cases early with
  | nil =>
    simp only [List.nil_append, List.cons.injEq, Event.wrote.injEq] at split
    simpa [← split.1] using may
  | cons event early => simp at split

end WritesOnly

end Writing

end Dialogue
