import Mathlib

/-! Polled operations. An operation over a state either finishes, fails, or
reports that it has to be polled again; the state keeps what was done so far. -/

/-- The answer of one poll. -/
inductive Poll (Value : Type u) where
  | ready (value : Value)
  | pending
  deriving DecidableEq, Repr

namespace Poll

def isPending {Value : Type u} : Poll Value → Bool
  | pending => true
  | ready _ => false

theorem eq_pending {Value : Type u} {answer : Poll Value} (waits : answer.isPending = true) :
    answer = pending := by
  cases answer with
  | pending => rfl
  | ready value => exact absurd waits Bool.false_ne_true

/-- One poll of an operation that may fail, together with the state it leaves. -/
abbrev Attempt (Error : Type u) (State : Type v) (Value : Type w) :=
  Poll (Except Error Value) × State

variable {Error : Type u} {State : Type v} {Value : Type w} {Other : Type w}

/-- Go on with the value of a finished operation. A failed or pending one ends
the whole operation, as it would by an early return. -/
def andThen (attempt : Attempt Error State Value)
    (next : Value → State → Attempt Error State Other) : Attempt Error State Other :=
  match attempt with
  | (.ready (.ok value), state) => next value state
  | (.ready (.error error), state) => (.ready (.error error), state)
  | (.pending, state) => (.pending, state)

/-- Poll once more if the first poll is pending. -/
def again (operation : State → Poll Value × State) (state : State) : Poll Value × State :=
  match operation state with
  | (.ready value, state) => (.ready value, state)
  | (.pending, state) => operation state

@[simp] theorem andThen_ok (value : Value) (state : State)
    (next : Value → State → Attempt Error State Other) :
    andThen (.ready (.ok value), state) next = next value state := rfl

@[simp] theorem andThen_error (error : Error) (state : State)
    (next : Value → State → Attempt Error State Other) :
    andThen (.ready (.error error), state) next = (.ready (.error error), state) := rfl

@[simp] theorem andThen_pending (state : State)
    (next : Value → State → Attempt Error State Other) :
    andThen (.pending, state) next = (.pending, state) := rfl

/-- A sequence succeeds only if both operations do. -/
theorem andThen_eq_ok {attempt : Attempt Error State Value}
    {next : Value → State → Attempt Error State Other} {value : Other} {state : State}
    (done : andThen attempt next = (.ready (.ok value), state)) :
    ∃ first middle, attempt = (.ready (.ok first), middle) ∧
      next first middle = (.ready (.ok value), state) := by
  match attempt, done with
  | (.ready (.ok first), middle), done => exact ⟨first, middle, rfl, done⟩
  | (.ready (.error _), _), done => simp at done
  | (.pending, _), done => simp at done

/-- What holds after the first operation, and is kept by the second, holds after
both. -/
theorem andThen_keeps {motive : State → Prop} (attempt : Attempt Error State Value)
    (next : Value → State → Attempt Error State Other) (first : motive attempt.2)
    (second : ∀ value state, attempt = (.ready (.ok value), state) → motive state →
      motive (next value state).2) :
    motive (andThen attempt next).2 := by
  match attempt, first, second with
  | (.ready (.ok value), state), first, second => exact second value state rfl first
  | (.ready (.error _), _), first, _ => exact first
  | (.pending, _), first, _ => exact first

/-- The answer of polling again is that of the last poll. -/
theorem again_cases {operation : State → Poll Value × State} {state final : State}
    {answer : Poll Value} (done : again operation state = (answer, final)) :
    operation state = (answer, final) ∨
      ∃ middle, operation state = (.pending, middle) ∧ operation middle = (answer, final) := by
  unfold again at done
  split at done
  · rename_i value next result
    exact .inl (result.trans done)
  · rename_i next result
    exact .inr ⟨next, result, done⟩

/-- A poll that answers is not repeated. -/
theorem again_ready {operation : State → Poll Value × State} {state : State}
    (answered : (operation state).1 ≠ .pending) : again operation state = operation state := by
  unfold again
  split
  · rename_i done
    exact done.symm
  · rename_i waits
    simp [waits] at answered

/-- What one poll keeps, polling again keeps. -/
theorem again_keeps {motive : State → Prop} (operation : State → Poll Value × State)
    (once : ∀ state, motive state → motive (operation state).2) (state : State)
    (first : motive state) : motive (again operation state).2 := by
  unfold again
  have kept := once state first
  split
  · rename_i value next result
    simpa [result] using kept
  · rename_i next result
    exact once next (by simpa [result] using kept)

end Poll
