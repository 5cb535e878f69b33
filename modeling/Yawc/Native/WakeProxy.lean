import Mathlib.Data.List.Basic

/-! The wakers of the reading and the writing task, kept apart, and the wake
that empties both slots. Registering and taking a waker are single steps; a wake
is made of several. -/

namespace Yawc

universe u v

/-- The direction an operation waits for. -/
inductive ContextKind where
  | read
  | write
  deriving DecidableEq

/-- Wakers, each of some task. Of two wakers of one task `willWake` may say that
they differ, but never the other way round. -/
structure Wakers (Waker : Type u) (Task : Type v) where
  task : Waker → Task
  willWake : Waker → Waker → Bool
  sameTask {first second : Waker} : willWake first second = true → task first = task second

structure WakeProxy (Waker : Type u) where
  readWaker : Option Waker
  writeWaker : Option Waker

namespace WakeProxy

variable {Waker : Type u} {Task : Type v}

def default : WakeProxy Waker := { readWaker := none, writeWaker := none }

def slot (self : WakeProxy Waker) : ContextKind → Option Waker
  | .read => self.readWaker
  | .write => self.writeWaker

def setWaker (self : WakeProxy Waker) (kind : ContextKind) (waker : Waker) : WakeProxy Waker :=
  match kind with
  | .read => { self with readWaker := some waker }
  | .write => { self with writeWaker := some waker }

def take (self : WakeProxy Waker) (kind : ContextKind) : Option Waker × WakeProxy Waker :=
  match kind with
  | .read => (self.readWaker, { self with readWaker := none })
  | .write => (self.writeWaker, { self with writeWaker := none })

/-- A wake that nothing interrupts: the wakers it wakes, in order, and the
emptied proxy. A task that waits for both directions is woken once. -/
def wakeByRef (wakers : Wakers Waker Task) (self : WakeProxy Waker) :
    List Waker × WakeProxy Waker :=
  let (read, self) := self.take .read
  let (write, self) := self.take .write
  let woken := match read, write with
    | some read, some write => (if !wakers.willWake read write then [write] else []) ++ [read]
    | some waker, none => [waker]
    | none, some waker => [waker]
    | none, none => []
  (woken, self)

@[simp] theorem slot_setWaker (self : WakeProxy Waker) (kind : ContextKind) (waker : Waker) :
    (self.setWaker kind waker).slot kind = some waker := by
  cases kind <;> rfl

theorem slot_setWaker_ne (self : WakeProxy Waker) {kind other : ContextKind} (waker : Waker)
    (apart : other ≠ kind) : (self.setWaker kind waker).slot other = self.slot other := by
  cases kind <;> cases other <;> first | rfl | exact absurd rfl apart

@[simp] theorem slot_take (self : WakeProxy Waker) (kind : ContextKind) :
    (self.take kind).2.slot kind = none := by
  cases kind <;> rfl

theorem slot_take_ne (self : WakeProxy Waker) {kind other : ContextKind} (apart : other ≠ kind) :
    (self.take kind).2.slot other = self.slot other := by
  cases kind <;> cases other <;> first | rfl | exact absurd rfl apart

/-- A waker in its slot is woken by the next wake, or another waker of its task
is. -/
theorem woken_of_slot (wakers : Wakers Waker Task) {self : WakeProxy Waker} {kind : ContextKind}
    {waker : Waker} (held : self.slot kind = some waker) :
    ∃ woken ∈ (self.wakeByRef wakers).1, wakers.task woken = wakers.task waker := by
  obtain ⟨read, write⟩ := self
  cases kind with
  | read =>
    obtain rfl : read = some waker := held
    refine ⟨waker, ?_, rfl⟩
    cases write <;> simp [wakeByRef, take]
  | write =>
    obtain rfl : write = some waker := held
    cases read with
    | none => exact ⟨waker, by simp [wakeByRef, take], rfl⟩
    | some reader =>
      by_cases same : wakers.willWake reader waker = true
      · exact ⟨reader, by simp [wakeByRef, take, same], wakers.sameTask same⟩
      · exact ⟨waker, by simp [wakeByRef, take, same], rfl⟩

end WakeProxy

/-- A wake under way. It takes one slot after the other and then wakes what it
has taken. -/
inductive WakeCall (Waker : Type u) where
  | started
  | tookRead (read : Option Waker)
  | tookBoth (read write : Option Waker)
  | last (read : Waker)
  | finished
  deriving DecidableEq

namespace WakeCall

variable {Waker : Type u} {Task : Type v}

/-- The next step of a wake: whom it wakes, and what is left of it. -/
def step (wakers : Wakers Waker Task) (self : WakeCall Waker) (proxy : WakeProxy Waker) :
    Option Waker × WakeCall Waker × WakeProxy Waker :=
  match self with
  | started => (none, tookRead (proxy.take .read).1, (proxy.take .read).2)
  | tookRead read => (none, tookBoth read (proxy.take .write).1, (proxy.take .write).2)
  | tookBoth (some read) (some write) =>
    if !wakers.willWake read write then (some write, last read, proxy)
    else (some read, finished, proxy)
  | tookBoth (some waker) none => (some waker, finished, proxy)
  | tookBoth none (some waker) => (some waker, finished, proxy)
  | tookBoth none none => (none, finished, proxy)
  | last read => (some read, finished, proxy)
  | finished => (none, finished, proxy)

/-- The steps of one wake with nothing in between. -/
def complete (wakers : Wakers Waker Task) :
    Nat → WakeCall Waker → WakeProxy Waker → List Waker × WakeProxy Waker
  | 0, _, proxy => ([], proxy)
  | fuel + 1, self, proxy =>
    let (woken, next, proxy) := self.step wakers proxy
    let (later, proxy) := complete wakers fuel next proxy
    (woken.toList ++ later, proxy)

/-- Four steps make up a whole wake. -/
theorem complete_started (wakers : Wakers Waker Task) (proxy : WakeProxy Waker) :
    complete wakers 4 started proxy = proxy.wakeByRef wakers := by
  obtain ⟨read, write⟩ := proxy
  cases read with
  | none => cases write <;> rfl
  | some read =>
    cases write with
    | none => rfl
    | some write =>
      cases same : wakers.willWake read write <;>
        simp [complete, step, WakeProxy.take, WakeProxy.wakeByRef, same]

/-- The wakers taken and not woken yet. -/
def held : WakeCall Waker → List Waker
  | tookRead read => read.toList
  | tookBoth read write => read.toList ++ write.toList
  | last read => [read]
  | _ => []

/-- Whether a wake still has to wake the task of a waker. -/
def Owes (wakers : Wakers Waker Task) (self : WakeCall Waker) (waker : Waker) : Prop :=
  ∃ taken ∈ self.held, wakers.task taken = wakers.task waker

/-- Whether a wake is past taking the waker of a direction. -/
def Took (kind : ContextKind) : WakeCall Waker → Prop
  | started => False
  | tookRead _ => kind = .read
  | _ => True

section Step

variable {wakers : Wakers Waker Task} {self next : WakeCall Waker}
  {proxy proxy' : WakeProxy Waker} {woken : Option Waker} {kind : ContextKind} {waker : Waker}

/-- All that a step can do: take the waker of one direction, or wake one and
leave the proxy alone. -/
theorem step_cases (taken : self.step wakers proxy = (woken, next, proxy')) :
    (self = started ∧ next = tookRead (proxy.slot .read) ∧ woken = none ∧
        proxy' = (proxy.take .read).2) ∨
      (∃ read, self = tookRead read ∧ next = tookBoth read (proxy.slot .write) ∧ woken = none ∧
        proxy' = (proxy.take .write).2) ∨
      (proxy' = proxy ∧ (∀ kind, next.Took kind → self.Took kind) ∧
        ∀ waker, self.Owes wakers waker →
          next.Owes wakers waker ∨ ∃ other, woken = some other ∧
            wakers.task other = wakers.task waker) := by
  cases self with
  | started =>
    simp only [step, Prod.mk.injEq] at taken
    obtain ⟨rfl, rfl, rfl⟩ := taken
    exact .inl ⟨rfl, rfl, rfl, rfl⟩
  | tookRead read =>
    simp only [step, Prod.mk.injEq] at taken
    obtain ⟨rfl, rfl, rfl⟩ := taken
    exact .inr (.inl ⟨read, rfl, rfl, rfl, rfl⟩)
  | last read =>
    simp only [step, Prod.mk.injEq] at taken
    obtain ⟨rfl, rfl, rfl⟩ := taken
    refine .inr (.inr ⟨rfl, fun _ _ => trivial, ?_⟩)
    intro waker owes
    obtain ⟨taken, member, same⟩ := owes
    obtain rfl : taken = read := List.mem_singleton.mp member
    exact .inr ⟨_, rfl, same⟩
  | finished =>
    simp only [step, Prod.mk.injEq] at taken
    obtain ⟨rfl, rfl, rfl⟩ := taken
    exact .inr (.inr ⟨rfl, fun _ _ => trivial, fun _ owes => .inl owes⟩)
  | tookBoth read write =>
    refine .inr (.inr ?_)
    cases read with
    | none =>
      cases write with
      | none =>
        simp only [step, Prod.mk.injEq] at taken
        obtain ⟨rfl, rfl, rfl⟩ := taken
        refine ⟨rfl, fun _ _ => trivial, ?_⟩
        intro waker owes
        simp [Owes, held] at owes
      | some write =>
        simp only [step, Prod.mk.injEq] at taken
        obtain ⟨rfl, rfl, rfl⟩ := taken
        refine ⟨rfl, fun _ _ => trivial, ?_⟩
        intro waker owes
        exact .inr ⟨write, rfl, by simpa [Owes, held] using owes⟩
    | some read =>
      cases write with
      | none =>
        simp only [step, Prod.mk.injEq] at taken
        obtain ⟨rfl, rfl, rfl⟩ := taken
        refine ⟨rfl, fun _ _ => trivial, ?_⟩
        intro waker owes
        exact .inr ⟨read, rfl, by simpa [Owes, held] using owes⟩
      | some write =>
        have either {waker : Waker} (owes : (tookBoth (some read) (some write)).Owes wakers waker) :
            wakers.task read = wakers.task waker ∨ wakers.task write = wakers.task waker := by
          simpa [Owes, held] using owes
        by_cases same : wakers.willWake read write = true
        · simp only [step, same, Bool.not_true, Bool.false_eq_true, if_false, Prod.mk.injEq] at taken
          obtain ⟨rfl, rfl, rfl⟩ := taken
          refine ⟨rfl, fun _ _ => trivial, ?_⟩
          intro waker owes
          refine .inr ⟨read, rfl, ?_⟩
          rcases either owes with here | there
          · exact here
          -- the writer's waker is dropped, but the reader's is one of the same task
          · exact (wakers.sameTask same).trans there
        · simp only [step, same, Bool.not_false, if_true, Prod.mk.injEq] at taken
          obtain ⟨rfl, rfl, rfl⟩ := taken
          refine ⟨rfl, fun _ _ => trivial, ?_⟩
          intro waker owes
          rcases either owes with here | there
          · exact .inl ⟨read, List.mem_singleton.mpr rfl, here⟩
          · exact .inr ⟨write, rfl, there⟩

/-- A waker leaves its slot only into the hands of the wake that takes it. -/
theorem step_slot (taken : self.step wakers proxy = (woken, next, proxy'))
    (present : proxy.slot kind = some waker) :
    proxy'.slot kind = some waker ∨ next.Owes wakers waker := by
  rcases step_cases taken with ⟨rfl, rfl, rfl, rfl⟩ | ⟨read, rfl, rfl, rfl, rfl⟩ | ⟨rfl, -, -⟩
  · cases kind with
    | read => exact .inr ⟨waker, by simp [held, present], rfl⟩
    | write => exact .inl ((proxy.slot_take_ne (by simp)).trans present)
  · cases kind with
    | read => exact .inl ((proxy.slot_take_ne (by simp)).trans present)
    | write => exact .inr ⟨waker, by simp [held, present], rfl⟩
  · exact .inl present

/-- A taken waker is held until it, or another of its task, is woken. -/
theorem step_owes (taken : self.step wakers proxy = (woken, next, proxy'))
    (owes : self.Owes wakers waker) :
    next.Owes wakers waker ∨ ∃ other, woken = some other ∧
      wakers.task other = wakers.task waker := by
  rcases step_cases taken with ⟨rfl, rfl, rfl, rfl⟩ | ⟨read, rfl, rfl, rfl, rfl⟩ | ⟨-, -, kept⟩
  · simp [Owes, held] at owes
  · left
    obtain ⟨other, member, same⟩ := owes
    exact ⟨other, List.mem_append_left _ member, same⟩
  · exact kept waker owes

/-- A wake never fills a slot. -/
theorem step_empty (taken : self.step wakers proxy = (woken, next, proxy'))
    (empty : proxy.slot kind = none) : proxy'.slot kind = none := by
  rcases step_cases taken with ⟨rfl, rfl, rfl, rfl⟩ | ⟨read, rfl, rfl, rfl, rfl⟩ | ⟨rfl, -, -⟩
  · by_cases here : kind = .read
    · rw [here, WakeProxy.slot_take]
    · rw [proxy.slot_take_ne here, empty]
  · by_cases here : kind = .write
    · rw [here, WakeProxy.slot_take]
    · rw [proxy.slot_take_ne here, empty]
  · exact empty

/-- The step that takes the waker of a direction empties its slot. -/
theorem step_took (taken : self.step wakers proxy = (woken, next, proxy'))
    (took : next.Took kind) : self.Took kind ∨ proxy'.slot kind = none := by
  rcases step_cases taken with ⟨rfl, rfl, rfl, rfl⟩ | ⟨read, rfl, rfl, rfl, rfl⟩ | ⟨-, kept, -⟩
  · obtain rfl : kind = .read := took
    exact .inr (proxy.slot_take .read)
  · cases kind with
    | read => exact .inl rfl
    | write => exact .inr (proxy.slot_take .write)
  · exact .inl (kept kind took)

end Step

end WakeCall

end Yawc
