import Mathlib

/-! Decoders that take their input in pieces. A decoder call yields an item, an
error or nothing, and hands back the state and the input it has not consumed.
The rules below say when the pieces do not matter. -/

namespace Incremental

universe u v w x y

variable {State : Type u} {Byte : Type v} {Item : Type w} {Error : Type x}

/-- One call of a decoder on the input buffered so far. -/
abbrev Decode (State : Type u) (Byte : Type v) (Item : Type w) (Error : Type x) :=
  State → List Byte → Except Error (Option Item) × State × List Byte

/-- What repeated calls produced, with the state and input they left. -/
structure Run (State : Type u) (Byte : Type v) (Item : Type w) (Error : Type x) where
  items : List Item
  error : Option Error
  state : State
  rest : List Byte

/-- Put items produced earlier in front of a run. -/
def Run.prepend (earlier : List Item) (run : Run State Byte Item Error) :
    Run State Byte Item Error :=
  { run with items := earlier ++ run.items }

/-- Account for input that has not been buffered yet. -/
def Run.behind (run : Run State Byte Item Error) (later : List Byte) :
    Run State Byte Item Error :=
  { run with rest := run.rest ++ later }

@[simp] theorem Run.prepend_nil (run : Run State Byte Item Error) : run.prepend [] = run := rfl

/-- Call the decoder until it yields nothing or fails, at most `fuel` times. -/
def drain (decode : Decode State Byte Item Error) :
    Nat → State → List Byte → Run State Byte Item Error
  | 0, state, input => ⟨[], none, state, input⟩
  | fuel + 1, state, input =>
    match decode state input with
    | (.ok (some item), state, rest) => (drain decode fuel state rest).prepend [item]
    | (.ok none, state, rest) => ⟨[], none, state, rest⟩
    | (.error error, state, rest) => ⟨[], some error, state, rest⟩

/-- Every item consumes input, so one call more than there is input is enough. -/
def drainAll (decode : Decode State Byte Item Error) (state : State) (input : List Byte) :
    Run State Byte Item Error :=
  drain decode (input.length + 1) state input

/-- Append the chunks one by one, draining after each, until the decoder fails.
Chunks that were never appended count as unconsumed. -/
def feed (decode : Decode State Byte Item Error) :
    State → List Byte → List (List Byte) → Run State Byte Item Error
  | state, buffered, [] => ⟨[], none, state, buffered⟩
  | state, buffered, chunk :: chunks =>
    let run := drainAll decode state (buffered ++ chunk)
    match run.error with
    | some _ => run.behind chunks.flatten
    | none => (feed decode run.state run.rest chunks).prepend run.items

/-- A decoder whose verdict on a prefix of the input is final, and whose saved
state stands for the input it has already taken. -/
structure Resumable (decode : Decode State Byte Item Error) : Prop where
  consumes : ∀ {state input item next rest},
    decode state input = (.ok (some item), next, rest) → rest.length < input.length
  item : ∀ {state input item next rest}, decode state input = (.ok (some item), next, rest) →
    ∀ more, decode state (input ++ more) = (.ok (some item), next, rest ++ more)
  error : ∀ {state input error next rest}, decode state input = (.error error, next, rest) →
    ∀ more, decode state (input ++ more) = (.error error, next, rest ++ more)
  resumes : ∀ {state input next rest}, decode state input = (.ok none, next, rest) →
    ∀ more, decode next (rest ++ more) = decode state (input ++ more)

/-- A decoder waiting for more input: another call changes nothing. -/
def Idle (decode : Decode State Byte Item Error) (state : State) (input : List Byte) : Prop :=
  decode state input = (.ok none, state, input)

variable {decode : Decode State Byte Item Error}

private theorem Resumable.idle (resumable : Resumable decode) {state next : State}
    {input rest : List Byte} (nothing : decode state input = (.ok none, next, rest)) :
    Idle decode next rest := by
  have again := resumable.resumes nothing []
  rw [List.append_nil, List.append_nil] at again
  exact again.trans nothing

/-- More calls than the input is long change nothing. -/
theorem Resumable.drain_fuel (resumable : Resumable decode) (fuel : Nat) (state : State)
    (input : List Byte) (enough : input.length < fuel) :
    drain decode fuel state input = drainAll decode state input := by
  unfold drainAll
  generalize bound : input.length + 1 = steps
  have steps_enough : input.length < steps := by omega
  clear bound
  induction fuel generalizing state input steps with
  | zero => omega
  | succ fuel ih =>
    cases steps with
    | zero => omega
    | succ steps =>
      simp only [drain]
      split
      · rename_i item next rest step
        have shorter := resumable.consumes step
        rw [ih next rest (by omega) steps (by omega)]
      · rfl
      · rfl

/-- One call unfolded. -/
theorem Resumable.drainAll_eq (resumable : Resumable decode) (state : State)
    (input : List Byte) :
    drainAll decode state input =
      match decode state input with
      | (.ok (some item), next, rest) => (drainAll decode next rest).prepend [item]
      | (.ok none, next, rest) => ⟨[], none, next, rest⟩
      | (.error error, next, rest) => ⟨[], some error, next, rest⟩ := by
  conv => lhs; unfold drainAll drain
  split
  · rename_i item next rest step
    rw [resumable.drain_fuel _ next rest (resumable.consumes step)]
  · rfl
  · rfl

/-- A run that did not fail ends with the decoder waiting. -/
theorem Resumable.drainAll_idle (resumable : Resumable decode) (state : State)
    (input : List Byte) (fine : (drainAll decode state input).error = none) :
    Idle decode (drainAll decode state input).state (drainAll decode state input).rest := by
  generalize size : input.length = n
  induction n using Nat.strongRecOn generalizing state input with
  | ind n ih =>
    rw [resumable.drainAll_eq] at fine ⊢
    split at fine
    · rename_i item next rest step
      have shorter := resumable.consumes step
      exact ih rest.length (by omega) next rest fine rfl
    · rename_i next rest step
      exact resumable.idle step
    · simp at fine

/-- Draining a longer buffer first drains the shorter one. -/
theorem Resumable.drainAll_append (resumable : Resumable decode) (state : State)
    (input more : List Byte) :
    drainAll decode state (input ++ more) =
      match (drainAll decode state input).error with
      | some _ => (drainAll decode state input).behind more
      | none => (drainAll decode (drainAll decode state input).state
          ((drainAll decode state input).rest ++ more)).prepend
            (drainAll decode state input).items := by
  generalize size : input.length = n
  induction n using Nat.strongRecOn generalizing state input with
  | ind n ih =>
    match call : decode state input with
    | (.ok (some item), next, rest) =>
      have shorter := resumable.consumes call
      have tail := ih rest.length (by omega) next rest rfl
      have long := resumable.item call more
      have short : drainAll decode state input = (drainAll decode next rest).prepend [item] := by
        rw [resumable.drainAll_eq, call]
      rw [resumable.drainAll_eq, long, short]
      simp only [tail]
      cases outcome : (drainAll decode next rest).error <;> simp [Run.prepend, Run.behind, outcome]
    | (.ok none, next, rest) =>
      have short : drainAll decode state input = ⟨[], none, next, rest⟩ := by
        rw [resumable.drainAll_eq, call]
      rw [short]
      -- The saved state answers for the buffer it came from, whatever follows.
      rw [resumable.drainAll_eq, resumable.drainAll_eq next, resumable.resumes call more]
      rfl
    | (.error error, next, rest) =>
      have long := resumable.error call more
      have short : drainAll decode state input = ⟨[], some error, next, rest⟩ := by
        rw [resumable.drainAll_eq, call]
      rw [resumable.drainAll_eq, long, short]
      rfl

/-- How the input is cut into chunks does not matter. -/
theorem Resumable.feed_eq (resumable : Resumable decode) (state : State)
    (buffered : List Byte) (chunks : List (List Byte)) (waiting : Idle decode state buffered) :
    feed decode state buffered chunks = drainAll decode state (buffered ++ chunks.flatten) := by
  induction chunks generalizing state buffered with
  | nil =>
    rw [List.flatten_nil, List.append_nil, resumable.drainAll_eq, show decode state buffered = _ from waiting]
    rfl
  | cons chunk chunks ih =>
    rw [List.flatten_cons, ← List.append_assoc, resumable.drainAll_append]
    simp only [feed]
    split
    · rfl
    · rename_i fine
      rw [ih _ _ (resumable.drainAll_idle state (buffered ++ chunk) fine)]

/-- Messages encoded back to back are read back in order, with nothing left. -/
theorem Resumable.drainAll_encoded {Message : Type y} (resumable : Resumable decode)
    (state : State) (encode : Message → List Byte) (reading : Message → Item)
    (waiting : Idle decode state []) (messages : List Message)
    (round : ∀ message ∈ messages, ∀ more,
      decode state (encode message ++ more) = (.ok (some (reading message)), state, more)) :
    drainAll decode state (messages.flatMap encode) =
      ⟨messages.map reading, none, state, []⟩ := by
  induction messages with
  | nil =>
    rw [List.flatMap_nil, resumable.drainAll_eq, show decode state [] = _ from waiting]
    rfl
  | cons message messages ih =>
    rw [List.flatMap_cons, resumable.drainAll_eq, round message (by simp)]
    simp only [ih (fun other member => round other (by simp [member]))]
    rfl

end Incremental
