import Mathlib

/-! Programs that act on a world they cannot see: each action is answered by the
world as it likes, and what a program does is the list of its actions with the
answers. -/

/-- A program ends with a value, or performs an action and goes on with the reply. -/
inductive Interaction (Action : Type) (Reply : Action → Type) (Value : Type) where
  | done (value : Value)
  | perform (action : Action) (next : Reply action → Interaction Action Reply Value)

namespace Interaction

variable {Action : Type} {Reply : Action → Type} {Value Other : Type}

/-- An action with its reply. -/
abbrev Event (Action : Type) (Reply : Action → Type) := Σ action, Reply action

def bind (program : Interaction Action Reply Value)
    (next : Value → Interaction Action Reply Other) : Interaction Action Reply Other :=
  match program with
  | done value => next value
  | perform action later => perform action fun reply => (later reply).bind next

instance : Monad (Interaction Action Reply) where
  pure := done
  bind := bind

/-- Performs one action. -/
def act (action : Action) : Interaction Action Reply (Reply action) := perform action done

/-- What a program can come to, whatever the world answers. -/
inductive Ran : Interaction Action Reply Value → List (Event Action Reply) → Value → Prop where
  | done (value : Value) : Ran (.done value) [] value
  | perform {action : Action} {next : Reply action → Interaction Action Reply Value}
      {events : List (Event Action Reply)} {value : Value} (reply : Reply action)
      (rest : Ran (next reply) events value) : Ran (.perform action next) (⟨action, reply⟩ :: events) value

theorem ran_pure {value result : Value} {events : List (Event Action Reply)} :
    Ran (pure value : Interaction Action Reply Value) events result ↔ events = [] ∧ result = value := by
  constructor
  · intro ran
    cases ran with
    | done => exact ⟨rfl, rfl⟩
  · rintro ⟨rfl, rfl⟩
    exact .done _

private theorem ran_act {action : Action} {events : List (Event Action Reply)}
    {result : Reply action} :
    Ran (act action) events result ↔ events = [⟨action, result⟩] := by
  constructor
  · intro ran
    cases ran with
    | perform reply rest =>
      cases rest with
      | done => rfl
  · rintro rfl
    exact .perform result (.done result)

theorem ran_bind {program : Interaction Action Reply Value}
    {next : Value → Interaction Action Reply Other} {events : List (Event Action Reply)}
    {result : Other} :
    Ran (program >>= next) events result ↔
      ∃ early late value, events = early ++ late ∧ Ran program early value ∧
        Ran (next value) late result := by
  change Ran (program.bind next) events result ↔ _
  induction program generalizing events with
  | done value =>
    rw [bind]
    constructor
    · intro ran
      exact ⟨[], events, value, rfl, .done value, ran⟩
    · rintro ⟨early, late, middle, rfl, first, second⟩
      cases first with
      | done => exact second
  | perform action later ih =>
    rw [bind]
    constructor
    · intro ran
      cases ran with
      | perform reply rest =>
        obtain ⟨early, late, value, rfl, first, second⟩ := (ih reply).mp rest
        exact ⟨⟨action, reply⟩ :: early, late, value, rfl, .perform reply first, second⟩
    · rintro ⟨early, late, middle, rfl, first, second⟩
      cases first with
      | perform reply rest => exact .perform reply ((ih reply).mpr ⟨_, late, middle, rfl, rest, second⟩)

/-- A program that may fail. A failure ends it. -/
abbrev Attempt (Action : Type) (Reply : Action → Type) (Error Value : Type) :=
  ExceptT Error (Interaction Action Reply) Value

variable {Error : Type}

/-- Performs an action whose reply may be a failure. -/
def attempt (action : Action) (read : Reply action → Except Error Value) :
    Attempt Action Reply Error Value :=
  ExceptT.mk (act action >>= fun reply => pure (read reply))

/-- A result that needs no action. -/
def lift (result : Except Error Value) : Attempt Action Reply Error Value :=
  ExceptT.mk (pure result)

/-- What an attempt can come to. -/
def Tried (attempt : Attempt Action Reply Error Value) (events : List (Event Action Reply))
    (result : Except Error Value) : Prop :=
  Ran attempt.run events result

section Tried

variable {events : List (Event Action Reply)}

theorem tried_pure {value : Value} {result : Except Error Value} :
    Tried (pure value : Attempt Action Reply Error Value) events result ↔
      events = [] ∧ result = .ok value := ran_pure

theorem tried_lift {given result : Except Error Value} :
    Tried (lift given : Attempt Action Reply Error Value) events result ↔
      events = [] ∧ result = given := ran_pure

theorem tried_throw {error : Error} {result : Except Error Value} :
    Tried (throw error : Attempt Action Reply Error Value) events result ↔
      events = [] ∧ result = .error error := ran_pure

theorem tried_attempt {action : Action} {read : Reply action → Except Error Value}
    {result : Except Error Value} :
    Tried (attempt action read) events result ↔
      ∃ reply, events = [⟨action, reply⟩] ∧ result = read reply := by
  unfold Tried attempt
  rw [ExceptT.run_mk, ran_bind]
  constructor
  · rintro ⟨early, late, reply, rfl, first, second⟩
    obtain rfl := ran_act.mp first
    obtain ⟨rfl, rfl⟩ := ran_pure.mp second
    exact ⟨reply, rfl, rfl⟩
  · rintro ⟨reply, rfl, rfl⟩
    exact ⟨_, [], reply, rfl, ran_act.mpr rfl, ran_pure.mpr ⟨rfl, rfl⟩⟩

/-- The first part fails, or both are run. -/
theorem tried_bind {first : Attempt Action Reply Error Value}
    {next : Value → Attempt Action Reply Error Other} {result : Except Error Other} :
    Tried (first >>= next) events result ↔
      (∃ error, Tried first events (.error error) ∧ result = .error error) ∨
      ∃ early late value, events = early ++ late ∧ Tried first early (.ok value) ∧
        Tried (next value) late result := by
  unfold Tried
  rw [ExceptT.run_bind, ran_bind]
  constructor
  · rintro ⟨early, late, outcome, rfl, ran, rest⟩
    cases outcome with
    | error error =>
      obtain ⟨rfl, rfl⟩ := ran_pure.mp rest
      exact .inl ⟨error, by simpa using ran, rfl⟩
    | ok value => exact .inr ⟨early, late, value, rfl, ran, rest⟩
  · rintro (⟨error, ran, rfl⟩ | ⟨early, late, value, rfl, ran, rest⟩)
    · exact ⟨events, [], .error error, by simp, ran, ran_pure.mpr ⟨rfl, rfl⟩⟩
    · exact ⟨early, late, .ok value, rfl, ran, rest⟩

theorem tried_bind_ok {first : Attempt Action Reply Error Value}
    {next : Value → Attempt Action Reply Error Other} {result : Other} :
    Tried (first >>= next) events (.ok result) ↔
      ∃ early late value, events = early ++ late ∧ Tried first early (.ok value) ∧
        Tried (next value) late (.ok result) := by
  simp [tried_bind]

end Tried

/-- Everything an attempt can do is allowed. -/
def Only (allowed : Event Action Reply → Prop) (attempt : Attempt Action Reply Error Value) : Prop :=
  ∀ events result, Tried attempt events result → ∀ event ∈ events, allowed event

section Only

variable {allowed : Event Action Reply → Prop}

theorem Only.mono {more : Event Action Reply → Prop} {attempt : Attempt Action Reply Error Value}
    (only : Only allowed attempt) (weaker : ∀ event, allowed event → more event) :
    Only more attempt := by
  intro events result tried event member
  exact weaker event (only events result tried event member)

theorem Only.pure (value : Value) :
    Only allowed (Pure.pure value : Attempt Action Reply Error Value) := by
  intro events result tried
  obtain ⟨rfl, -⟩ := tried_pure.mp tried
  simp

theorem Only.lift (result : Except Error Value) :
    Only allowed (lift result : Attempt Action Reply Error Value) := by
  intro events outcome tried
  obtain ⟨rfl, -⟩ := tried_lift.mp tried
  simp

theorem Only.throw (error : Error) :
    Only allowed (MonadExcept.throw error : Attempt Action Reply Error Value) := by
  intro events result tried
  obtain ⟨rfl, -⟩ := tried_throw.mp tried
  simp

theorem Only.attempt {action : Action} {read : Reply action → Except Error Value}
    (may : ∀ reply, allowed ⟨action, reply⟩) :
    Only allowed (attempt action read : Attempt Action Reply Error Value) := by
  intro events result tried
  obtain ⟨reply, rfl, -⟩ := tried_attempt.mp tried
  simpa using may reply

theorem Only.bind {first : Attempt Action Reply Error Value}
    {next : Value → Attempt Action Reply Error Other} (before : Only allowed first)
    (after : ∀ value, Only allowed (next value)) : Only allowed (first >>= next) := by
  intro events result tried
  rcases tried_bind.mp tried with ⟨error, failed, -⟩ | ⟨early, late, value, rfl, done, rest⟩
  · exact before _ _ failed
  · intro event member
    rcases List.mem_append.mp member with here | later
    · exact before _ _ done event here
    · exact after value _ _ rest event later

end Only

/-- Everything an attempt can fail with is allowed. -/
def Fails (allowed : Error → Prop) (attempt : Attempt Action Reply Error Value) : Prop :=
  ∀ events error, Tried attempt events (.error error) → allowed error

section Fails

variable {allowed : Error → Prop}

theorem Fails.pure (value : Value) :
    Fails allowed (Pure.pure value : Attempt Action Reply Error Value) := by
  intro events error tried
  obtain ⟨-, ⟨⟩⟩ := tried_pure.mp tried

theorem Fails.lift {result : Except Error Value} (may : ∀ error, result = .error error → allowed error) :
    Fails allowed (lift result : Attempt Action Reply Error Value) := by
  intro events error tried
  obtain ⟨-, same⟩ := tried_lift.mp tried
  exact may error same.symm

theorem Fails.throw {error : Error} (may : allowed error) :
    Fails allowed (MonadExcept.throw error : Attempt Action Reply Error Value) := by
  intro events error tried
  obtain ⟨-, ⟨⟩⟩ := tried_throw.mp tried
  exact may

theorem Fails.attempt {action : Action} {read : Reply action → Except Error Value}
    (may : ∀ reply error, read reply = .error error → allowed error) :
    Fails allowed (attempt action read : Attempt Action Reply Error Value) := by
  intro events error tried
  obtain ⟨reply, -, same⟩ := tried_attempt.mp tried
  exact may reply error same.symm

theorem Fails.bind {first : Attempt Action Reply Error Value}
    {next : Value → Attempt Action Reply Error Other} (before : Fails allowed first)
    (after : ∀ value, Fails allowed (next value)) : Fails allowed (first >>= next) := by
  intro events error tried
  rcases tried_bind.mp tried with ⟨_, failed, ⟨⟩⟩ | ⟨early, late, value, rfl, done, rest⟩
  · exact before _ _ failed
  · exact after value _ _ rest

end Fails

section Reached

variable {allowed : Event Action Reply → Prop} {before after : List (Event Action Reply)}
  {event : Event Action Reply}

/-- An action that the first part never takes is reached only if it succeeds. -/
theorem reached_later {first : Attempt Action Reply Error Value}
    {next : Value → Attempt Action Reply Error Other} {result : Except Error Other}
    (only : Only allowed first) (other : ¬ allowed event)
    (tried : Tried (first >>= next) (before ++ event :: after) result) :
    ∃ early late value, before = early ++ late ∧ Tried first early (.ok value) ∧
      Tried (next value) (late ++ event :: after) result := by
  rcases tried_bind.mp tried with ⟨error, failed, -⟩ | ⟨early, rest, value, split, done, going⟩
  · exact absurd (only _ _ failed event (by simp)) other
  · rcases List.append_eq_append_iff.mp split with ⟨more, rfl, tail⟩ | ⟨late, rfl, rfl⟩
    · -- The action would lie in the part that avoids it, unless nothing is left of that.
      cases more with
      | nil =>
        rw [List.nil_append] at tail
        exact ⟨before, [], value, by simp, by simpa using done, by simpa [tail] using going⟩
      | cons head more =>
        obtain ⟨rfl, -⟩ := List.cons.inj tail
        exact absurd (only _ _ done event (by simp)) other
    · exact ⟨early, late, value, rfl, done, going⟩

/-- Past a result that needs no action. -/
theorem reached_lift {given : Except Error Value} {next : Value → Attempt Action Reply Error Other}
    {result : Except Error Other}
    (tried : Tried (lift given >>= next) (before ++ event :: after) result) :
    ∃ value, given = .ok value ∧ Tried (next value) (before ++ event :: after) result := by
  have only : Only (fun _ => False) (lift given : Attempt Action Reply Error Value) := .lift given
  obtain ⟨early, late, value, rfl, done, going⟩ := reached_later only not_false tried
  obtain ⟨rfl, same⟩ := tried_lift.mp done
  exact ⟨value, same.symm, going⟩

/-- Past another action. -/
theorem reached_past {action : Action} {read : Reply action → Except Error Value}
    {next : Value → Attempt Action Reply Error Other} {result : Except Error Other}
    (other : event.1 ≠ action)
    (tried : Tried (attempt action read >>= next) (before ++ event :: after) result) :
    ∃ reply late value, before = ⟨action, reply⟩ :: late ∧ read reply = .ok value ∧
      Tried (next value) (late ++ event :: after) result := by
  have only : Only (·.1 = action) (attempt action read : Attempt Action Reply Error Value) :=
    .attempt fun _ => rfl
  obtain ⟨early, late, value, rfl, done, going⟩ := reached_later only other tried
  obtain ⟨reply, rfl, same⟩ := tried_attempt.mp done
  exact ⟨reply, late, value, rfl, same.symm, going⟩

/-- An action that is taken only at the start is the first one and the last. -/
theorem reached_first {action : Action} {read : Reply action → Except Error Value}
    {next : Value → Attempt Action Reply Error Other} {result : Except Error Other}
    (only : ∀ value, Only allowed (next value)) (other : ¬ allowed event)
    (tried : Tried (attempt action read >>= next) (before ++ event :: after) result) :
    before = [] ∧ event.1 = action ∧ ∀ later ∈ after, allowed later := by
  rcases tried_bind.mp tried with ⟨error, failed, -⟩ | ⟨early, rest, value, split, done, going⟩
  · obtain ⟨reply, shape, -⟩ := tried_attempt.mp failed
    obtain ⟨rfl, single⟩ := List.append_eq_singleton_iff.mp shape |>.resolve_right (by simp)
    obtain ⟨rfl, rfl⟩ := List.cons.inj single
    exact ⟨rfl, rfl, by simp⟩
  · obtain ⟨reply, rfl, -⟩ := tried_attempt.mp done
    cases before with
    | nil =>
      obtain ⟨rfl, rfl⟩ := List.cons.inj split
      exact ⟨rfl, rfl, only value _ _ going⟩
    | cons head before =>
      obtain ⟨rfl, rfl⟩ := List.cons.inj split
      exact absurd (only value _ _ going event (by simp)) other

end Reached

end Interaction
