import Mathlib

/-! Runs of a step function, with the condition each step has to meet. -/

namespace Trace

universe u v w

variable {State : Type u} {Input : Type v} {Output : Type w}

/-- One call on a state. Nothing if it does not return. -/
abbrev Step (State : Type u) (Input : Type v) (Output : Type w) :=
  State → Input → Option (Output × State)

/-- A run: the calls made, each in a state where it is allowed, with what they
returned. -/
inductive Run (step : Step State Input Output) (allowed : State → Input → Prop) :
    State → List (Input × Output) → State → Prop where
  | nil : Run step allowed state [] state
  | cons (permitted : allowed state input) (taken : step state input = some (output, middle))
      (rest : Run step allowed middle trace final) :
      Run step allowed state ((input, output) :: trace) final

variable {step : Step State Input Output} {allowed : State → Input → Prop}

/-- What every allowed step keeps holds at the end of a run. -/
theorem Run.keeps {motive : State → Prop}
    (kept : ∀ {state input output next}, allowed state input →
      step state input = some (output, next) → motive state → motive next)
    {start final : State} {trace : List (Input × Output)}
    (run : Run step allowed start trace final) (initial : motive start) : motive final := by
  induction run with
  | nil => exact initial
  | cons permitted taken _ ih => exact ih (kept permitted taken initial)

/-- What every allowed step keeps of the calls made so far holds of the whole
run. -/
theorem Run.follows {motive : List (Input × Output) → State → Prop}
    (kept : ∀ {past state input output next}, allowed state input →
      step state input = some (output, next) → motive past state →
      motive (past ++ [(input, output)]) next)
    {start final : State} {trace : List (Input × Output)}
    (run : Run step allowed start trace final) (initial : motive [] start) :
    motive trace final := by
  have behind (past : List (Input × Output)) (before : motive past start) :
      motive (past ++ trace) final := by
    clear initial
    induction run generalizing past with
    | nil => simpa using before
    | cons permitted taken _ ih => simpa using ih _ (kept permitted taken before)
  exact behind [] initial

/-- Makes the calls in turn. -/
def exec (step : Step State Input Output) : State → List Input → Option (List (Input × Output) × State)
  | state, [] => some ([], state)
  | state, input :: inputs =>
    match step state input with
    | none => none
    | some (output, middle) =>
      (exec step middle inputs).map fun (trace, final) => ((input, output) :: trace, final)

/-- Calls that all return make a run. -/
theorem Run.of_exec (inputs : List Input) {start final : State} {trace : List (Input × Output)}
    (done : exec step start inputs = some (trace, final)) :
    Run step (fun _ _ => True) start trace final := by
  induction inputs generalizing start trace with
  | nil =>
    simp only [exec, Option.some.injEq, Prod.mk.injEq] at done
    obtain ⟨rfl, rfl⟩ := done
    exact .nil
  | cons input inputs ih =>
    simp only [exec] at done
    split at done
    · simp at done
    · rename_i output middle taken
      simp only [Option.map_eq_some_iff, Prod.mk.injEq] at done
      obtain ⟨⟨rest, final'⟩, later, rfl, rfl⟩ := done
      exact .cons trivial taken (ih later)

theorem exec_snoc (start : State) (inputs : List Input) (input : Input) :
    exec step start (inputs ++ [input]) =
      (exec step start inputs).bind fun (trace, middle) =>
        (step middle input).map fun (output, final) => (trace ++ [(input, output)], final) := by
  induction inputs generalizing start with
  | nil =>
    simp only [List.nil_append, exec, Option.bind_some]
    cases step start input with
    | none => rfl
    | some taken => simp
  | cons first inputs ih =>
    simp only [List.cons_append, exec]
    cases step start first with
    | none => rfl
    | some taken =>
      obtain ⟨output, middle⟩ := taken
      simp only [ih]
      cases exec step middle inputs with
      | none => rfl
      | some rest => simp [Function.comp_def]

/-- Two calls that return the same and lead to related states, or both do not
return. -/
def Alike {Other : Type*} {Returned : Type*} (related : State → Other → Prop) :
    Option (Returned × State) → Option (Returned × Other) → Prop :=
  Option.Rel fun taken taken' => taken.1 = taken'.1 ∧ related taken.2 taken'.2

theorem Alike.related {Other : Type*} {Returned : Type*} {related : State → Other → Prop}
    {returned : Returned} {state : State} {taken' : Option (Returned × Other)}
    (alike : Alike related (some (returned, state)) taken') :
    ∃ other, taken' = some (returned, other) ∧ related state other := by
  cases alike with
  | some same => exact ⟨_, congrArg some (Prod.ext same.1.symm rfl), same.2⟩

theorem Alike.returned {Other : Type*} {Returned : Type*} {related : State → Other → Prop}
    {taken : Option (Returned × State)} {taken' : Option (Returned × Other)}
    (alike : Alike related taken taken') : taken.map Prod.fst = taken'.map Prod.fst := by
  cases alike with
  | none => rfl
  | some same => exact congrArg some same.1

/-- A run passes through the states between its parts. -/
theorem Run.split {start final : State} {first second : List (Input × Output)}
    (run : Run step allowed start (first ++ second) final) :
    ∃ middle, Run step allowed start first middle ∧ Run step allowed middle second final := by
  induction first generalizing start with
  | nil => exact ⟨start, .nil, run⟩
  | cons pair first ih =>
    cases run with
    | cons permitted taken rest =>
      obtain ⟨middle, front, back⟩ := ih rest
      exact ⟨middle, .cons permitted taken front, back⟩

end Trace
