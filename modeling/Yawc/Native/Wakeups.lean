import Yawc.Library.Trace
import Yawc.Native.WakeProxy
import Yawc.Native.Watched

/-! Operations and wakes that interleave step by step. A task whose operation
is pending has been woken since, or its waker waits in its slot. -/

namespace Yawc

universe u v

/-- The polled operations of the connection. A read is given the limit on
reassembly, `ready` whether the write buffer is below the backpressure
boundary. -/
inductive Operation where
  | nextFrame (maxReadBuffer : Nat)
  | ready (below : Bool)
  | flush
  | close

namespace Operation

def kind : Operation → ContextKind
  | nextFrame _ => .read
  | _ => .write

/-- Whether the operation answers pending, and the connection and steps it
leaves. -/
def poll (self : Operation) (watched : Watched) : Bool × Watched :=
  match self with
  | nextFrame maxReadBuffer =>
    let (answer, watched) := watched.pollNextFrameWithLimit maxReadBuffer
    (answer.isPending, watched)
  | ready below =>
    let (answer, watched) := watched.pollReady below
    (answer.isPending, watched)
  | flush =>
    let (answer, watched) := watched.pollFlush
    (answer.isPending, watched)
  | close =>
    let (answer, watched) := watched.pollClose
    (answer.isPending, watched)

/-- What the framed transport promises where the connection relies on it: below
the boundary it takes another frame without asking the transport. -/
def Supported (connection : Streaming) : Operation → Prop
  | ready below => connection.obligatedSends.isEmpty → ¬ connection.flushSends → below →
      connection.pollWriteReady.1 ≠ .pending
  | _ => True

end Operation

/-- A pending operation registered its caller before it last polled the
transport. -/
theorem Operation.pending_guarded {operation : Operation} {watched : Watched}
    (supported : operation.Supported watched.connection)
    (pending : (operation.poll watched).1 = true) :
    Watched.Guarded (operation.poll watched).2.steps := by
  cases operation with
  | nextFrame maxReadBuffer =>
    exact Watched.pending_pollNextFrameWithLimit (Poll.eq_pending pending)
  | ready below => exact Watched.pending_pollReady supported (Poll.eq_pending pending)
  | flush => exact watched.guarded_pollFlush
  | close => exact watched.guarded_pollClose

/-- An operation under way, with the steps it still has to make. -/
structure Running (Waker : Type u) where
  kind : ContextKind
  waker : Waker
  left : List PollStep
  pending : Bool

/-- The connection, its proxy, every wake ever called, and the operation under
way. -/
structure World (Waker : Type u) where
  connection : Streaming
  proxy : WakeProxy Waker
  calls : List (WakeCall Waker)
  running : Option (Running Waker)

/-- What may happen next. A wake can be called at any time; operations do not
overlap. -/
inductive Act (Waker : Type u) where
  | begin (operation : Operation) (waker : Waker)
  | advance
  | startSend (frame : Frame)
  | wake
  | proceed (index : Nat)

inductive Happening (Waker : Type u) where
  | began (kind : ContextKind) (waker : Waker)
  | made (kind : ContextKind) (waker : Waker) (step : PollStep)
  | returned (kind : ContextKind) (waker : Waker) (pending : Bool)
  | sent
  | called (index : Nat)
  | proceeded (index : Nat) (woken : Option Waker)

namespace World

variable {Waker : Type u} {Task : Type v}

def new (connection : Streaming) : World Waker :=
  { connection, proxy := .default, calls := [], running := none }

def begin (world : World Waker) (operation : Operation) (waker : Waker) :
    Happening Waker × World Waker :=
  let (pending, watched) := operation.poll { connection := world.connection, steps := [] }
  (.began operation.kind waker,
    { world with
      connection := watched.connection
      running := some { kind := operation.kind, waker, left := watched.steps, pending } })

def advance (world : World Waker) (running : Running Waker) : Happening Waker × World Waker :=
  match running.left with
  | [] => (.returned running.kind running.waker running.pending, { world with running := none })
  | step :: left =>
    let proxy := match step with
      | .register => world.proxy.setWaker running.kind running.waker
      | _ => world.proxy
    (.made running.kind running.waker step,
      { world with proxy, running := some { running with left } })

def proceed (wakers : Wakers Waker Task) (world : World Waker) (index : Nat)
    (call : WakeCall Waker) : Happening Waker × World Waker :=
  let (woken, call, proxy) := call.step wakers world.proxy
  (.proceeded index woken, { world with proxy, calls := world.calls.set index call })

def step (wakers : Wakers Waker Task) : Trace.Step (World Waker) (Act Waker) (Happening Waker)
  | world, .begin operation waker =>
    if world.running.isNone then some (world.begin operation waker) else none
  | world, .advance => world.running.map world.advance
  | world, .startSend frame =>
    if world.running.isNone then
      some (.sent, { world with connection := (world.connection.startSend frame).2 })
    else none
  | world, .wake =>
    some (.called world.calls.length, { world with calls := world.calls ++ [.started] })
  | world, .proceed index => (world.calls[index]?).map (world.proceed wakers index)

/-- The framed transport keeps its promise. -/
def Permitted (world : World Waker) : Act Waker → Prop
  | .begin operation _ => operation.Supported world.connection
  | _ => True

/-- Whether a wake under way has taken the waker and will wake its task. -/
def Owes (wakers : Wakers Waker Task) (world : World Waker) (waker : Waker) : Prop :=
  ∃ call ∈ world.calls, call.Owes wakers waker

/-- No wake is under way. -/
def Quiet (world : World Waker) : Prop := ∀ call ∈ world.calls, call = .finished

private theorem Quiet.not_owes {world : World Waker} (quiet : world.Quiet)
    (wakers : Wakers Waker Task)
    (waker : Waker) : ¬ world.Owes wakers waker := by
  intro owes
  obtain ⟨call, member, taken, held, -⟩ := owes
  rw [quiet call member] at held
  exact absurd held List.not_mem_nil

end World

section History

variable {Waker : Type u} {Task : Type v}

def Happening.Registers (kind : ContextKind) : Happening Waker → Prop
  | .made other _ .register => other = kind
  | _ => False

def Happening.Begins : Happening Waker → Prop
  | .began _ _ => True
  | _ => False

/-- The last registration of a direction was of this waker, and `late` is what
happened since. -/
def Since (kind : ContextKind) (waker : Waker) (past late : List (Happening Waker)) : Prop :=
  ∃ early, past = early ++ .made kind waker .register :: late ∧
    ∀ happening ∈ late, ¬ happening.Registers kind

/-- Whether the task of a waker was woken. -/
def Woken (wakers : Wakers Waker Task) (waker : Waker) (late : List (Happening Waker)) : Prop :=
  ∃ index woken, .proceeded index (some woken) ∈ late ∧ wakers.task woken = wakers.task waker

variable {kind : ContextKind} {waker : Waker} {past late : List (Happening Waker)}
  {happening : Happening Waker} {wakers : Wakers Waker Task}

private theorem Woken.append (woken : Woken wakers waker late) (more : List (Happening Waker)) :
    Woken wakers waker (late ++ more) := by
  obtain ⟨index, other, member, same⟩ := woken
  exact ⟨index, other, List.mem_append_left _ member, same⟩

private theorem Since.registered (kind : ContextKind) (waker : Waker)
    (past : List (Happening Waker)) :
    Since kind waker (past ++ [.made kind waker .register]) [] :=
  ⟨past, rfl, by simp⟩

theorem Since.append (since : Since kind waker past late) {more : List (Happening Waker)}
    (others : ∀ happening ∈ more, ¬ happening.Registers kind) :
    Since kind waker (past ++ more) (late ++ more) := by
  obtain ⟨early, rfl, silent⟩ := since
  refine ⟨early, by simp, ?_⟩
  intro happening member
  rcases List.mem_append.mp member with old | new
  · exact silent happening old
  · exact others happening new

private theorem Since.snoc (since : Since kind waker past late)
    (other : ¬ happening.Registers kind) :
    Since kind waker (past ++ [happening]) (late ++ [happening]) := by
  apply since.append
  intro other' member
  rw [List.mem_singleton.mp member]
  exact other

/-- What the last happening can be, seen from the last registration. -/
theorem Since.snoc_cases (since : Since kind waker (past ++ [happening]) late) :
    (happening = .made kind waker .register ∧ late = []) ∨
      (¬ happening.Registers kind ∧
        ∃ earlier, late = earlier ++ [happening] ∧ Since kind waker past earlier) := by
  obtain ⟨early, split, silent⟩ := since
  rcases List.eq_nil_or_concat late with rfl | ⟨earlier, final, rfl⟩
  · have parts := List.append_inj' split rfl
    exact .inl ⟨List.singleton_inj.mp parts.2, rfl⟩
  · right
    rw [List.concat_eq_append] at split silent ⊢
    have split : past ++ [happening] =
        (early ++ .made kind waker .register :: earlier) ++ [final] := by simpa using split
    have parts := List.append_inj' split rfl
    obtain rfl := List.singleton_inj.mp parts.2
    refine ⟨silent _ (by simp), earlier, rfl, early, parts.1, ?_⟩
    intro other member
    exact silent other (List.mem_append_left _ member)

end History

namespace World

variable {Waker : Type u} {Task : Type v}

section Effects

variable {wakers : Wakers Waker Task} {world next : World Waker} {act : Act Waker}
  {happening : Happening Waker} {kind : ContextKind} {waker : Waker}

/-- All that can happen in one step. -/
theorem step_cases (taken : step wakers world act = some (happening, next)) :
    (∃ operation waker, act = .begin operation waker ∧ world.running = none ∧
        (happening, next) = world.begin operation waker) ∨
      (∃ running, world.running = some running ∧ running.left = [] ∧
        happening = .returned running.kind running.waker running.pending ∧
        next = { world with running := none }) ∨
      (∃ running left, world.running = some running ∧ running.left = .register :: left ∧
        happening = .made running.kind running.waker .register ∧
        next = { world with
          proxy := world.proxy.setWaker running.kind running.waker
          running := some { running with left } }) ∨
      (∃ running step left, world.running = some running ∧ running.left = step :: left ∧
        step ≠ .register ∧ happening = .made running.kind running.waker step ∧
        next = { world with running := some { running with left } }) ∨
      (∃ frame, world.running = none ∧ happening = .sent ∧
        next = { world with connection := (world.connection.startSend frame).2 }) ∨
      (happening = .called world.calls.length ∧
        next = { world with calls := world.calls ++ [.started] }) ∨
      (∃ index call woken after proxy, world.calls[index]? = some call ∧
        call.step wakers world.proxy = (woken, after, proxy) ∧
        happening = .proceeded index woken ∧
        next = { world with proxy, calls := world.calls.set index after }) := by
  cases act with
  | begin operation waker =>
    simp only [step, Option.isNone_iff_eq_none] at taken
    split at taken
    · rename_i idle
      exact .inl ⟨operation, waker, rfl, idle, (Option.some.inj taken).symm⟩
    · exact absurd taken (by simp)
  | advance =>
    simp only [step, Option.map_eq_some_iff] at taken
    obtain ⟨running, under, made⟩ := taken
    cases steps : running.left with
    | nil =>
      simp only [advance, steps, Prod.mk.injEq] at made
      exact .inr (.inl ⟨running, under, steps, made.1.symm, made.2.symm⟩)
    | cons first left =>
      simp only [advance, steps, Prod.mk.injEq] at made
      cases first with
      | register =>
        exact .inr (.inr (.inl ⟨running, left, under, steps, made.1.symm, made.2.symm⟩))
      | enter =>
        exact .inr (.inr (.inr (.inl
          ⟨running, .enter, left, under, steps, by simp, made.1.symm, made.2.symm⟩)))
      | leave pending =>
        exact .inr (.inr (.inr (.inl
          ⟨running, .leave pending, left, under, steps, by simp, made.1.symm, made.2.symm⟩)))
  | startSend frame =>
    simp only [step, Option.isNone_iff_eq_none] at taken
    split at taken
    · rename_i idle
      simp only [Option.some.injEq, Prod.mk.injEq] at taken
      exact .inr (.inr (.inr (.inr (.inl ⟨frame, idle, taken.1.symm, taken.2.symm⟩))))
    · exact absurd taken (by simp)
  | wake =>
    simp only [step, Option.some.injEq, Prod.mk.injEq] at taken
    exact .inr (.inr (.inr (.inr (.inr (.inl ⟨taken.1.symm, taken.2.symm⟩)))))
  | proceed index =>
    simp only [step, Option.map_eq_some_iff] at taken
    obtain ⟨call, found, made⟩ := taken
    cases result : call.step wakers world.proxy with
    | mk woken rest =>
      obtain ⟨after, proxy⟩ := rest
      simp only [proceed, result, Prod.mk.injEq] at made
      exact .inr (.inr (.inr (.inr (.inr (.inr
        ⟨index, call, woken, after, proxy, found, result, made.1.symm, made.2.symm⟩)))))

/-- How the slots change: not at all, by a registration, or by a step of a wake. -/
theorem proxy_cases (taken : step wakers world act = some (happening, next)) :
    (next.proxy = world.proxy ∧ ∀ kind, ¬ happening.Registers kind) ∨
      (∃ kind waker, happening = .made kind waker .register ∧
        next.proxy = world.proxy.setWaker kind waker) ∨
      ∃ index call woken after, world.calls[index]? = some call ∧
        call.step wakers world.proxy = (woken, after, next.proxy) ∧
        happening = .proceeded index woken ∧ next.calls = world.calls.set index after := by
  rcases step_cases taken with ⟨operation, caller, -, -, made⟩ | ⟨running, -, -, rfl, rfl⟩ |
    ⟨running, left, -, -, rfl, rfl⟩ | ⟨running, step, left, -, -, apart, rfl, rfl⟩ |
    ⟨frame, -, rfl, rfl⟩ | ⟨rfl, rfl⟩ | ⟨index, call, woken, after, proxy, found, result, rfl, rfl⟩
  · simp only [begin, Prod.mk.injEq] at made
    rw [made.1, made.2]
    exact .inl ⟨rfl, fun _ => id⟩
  · exact .inl ⟨rfl, fun _ => id⟩
  · exact .inr (.inl ⟨_, _, rfl, rfl⟩)
  · refine .inl ⟨rfl, ?_⟩
    intro kind registers
    cases step with
    | register => exact apart rfl
    | enter => exact registers
    | leave pending => exact registers
  · exact .inl ⟨rfl, fun _ => id⟩
  · exact .inl ⟨rfl, fun _ => id⟩
  · exact .inr (.inr ⟨index, call, woken, after, found, result, rfl, rfl⟩)

private theorem slot_registered (taken : step wakers world act = some (happening, next))
    (registered : happening = .made kind waker .register) : next.proxy.slot kind = some waker := by
  subst registered
  rcases proxy_cases taken with ⟨-, other⟩ | ⟨kind', waker', made, changed⟩ |
    ⟨index, call, woken, after, -, -, made, -⟩
  · exact absurd rfl (other kind)
  · simp only [Happening.made.injEq] at made
    obtain ⟨rfl, rfl, -⟩ := made
    rw [changed, WakeProxy.slot_setWaker]
  · exact absurd made (by simp)

/-- A waker stays in its slot until a wake takes it or another replaces it. -/
theorem slot_kept (taken : step wakers world act = some (happening, next))
    (other : ¬ happening.Registers kind) (present : world.proxy.slot kind = some waker) :
    next.proxy.slot kind = some waker ∨ next.Owes wakers waker := by
  rcases proxy_cases taken with ⟨same, -⟩ | ⟨kind', waker', rfl, changed⟩ |
    ⟨index, call, woken, after, found, result, -, moved⟩
  · rw [same]
    exact .inl present
  · rw [changed, WakeProxy.slot_setWaker_ne _ _ (Ne.symm other)]
    exact .inl present
  · rcases WakeCall.step_slot result present with still | owes
    · exact .inl still
    · right
      obtain ⟨inside, -⟩ := List.getElem?_eq_some_iff.mp found
      refine ⟨after, ?_, owes⟩
      rw [moved]
      exact List.mem_set inside after

/-- A slot that is empty stays so until a waker is registered in it. -/
theorem slot_empty (taken : step wakers world act = some (happening, next))
    (other : ¬ happening.Registers kind) (empty : world.proxy.slot kind = none) :
    next.proxy.slot kind = none := by
  rcases proxy_cases taken with ⟨same, -⟩ | ⟨kind', waker', rfl, changed⟩ |
    ⟨index, call, woken, after, found, result, -, -⟩
  · rw [same]
    exact empty
  · rw [changed, WakeProxy.slot_setWaker_ne _ _ (Ne.symm other)]
    exact empty
  · exact WakeCall.step_empty result empty

/-- How the calls under way change: not at all, by one more, or by a step of
one of them. -/
theorem calls_cases (taken : step wakers world act = some (happening, next)) :
    (next.calls = world.calls ∧ (∀ index, happening ≠ .called index)) ∨
      (happening = .called world.calls.length ∧ next.calls = world.calls ++ [.started]) ∨
      ∃ index call woken after proxy, world.calls[index]? = some call ∧
        call.step wakers world.proxy = (woken, after, proxy) ∧
        happening = .proceeded index woken ∧ next.calls = world.calls.set index after ∧
        next.proxy = proxy := by
  rcases step_cases taken with ⟨operation, caller, -, -, made⟩ | ⟨running, -, -, rfl, rfl⟩ |
    ⟨running, left, -, -, rfl, rfl⟩ | ⟨running, step, left, -, -, -, rfl, rfl⟩ |
    ⟨frame, -, rfl, rfl⟩ | ⟨rfl, rfl⟩ | ⟨index, call, woken, after, proxy, found, result, rfl, rfl⟩
  · simp only [begin, Prod.mk.injEq] at made
    rw [made.1, made.2]
    exact .inl ⟨rfl, by simp⟩
  · exact .inl ⟨rfl, by simp⟩
  · exact .inl ⟨rfl, by simp⟩
  · exact .inl ⟨rfl, by simp⟩
  · exact .inl ⟨rfl, by simp⟩
  · exact .inr (.inl ⟨rfl, rfl⟩)
  · exact .inr (.inr ⟨index, call, woken, after, proxy, found, result, rfl, rfl, rfl⟩)

/-- A wake that holds a waker still does after the step, or has just woken its
task. -/
theorem owes_kept (taken : step wakers world act = some (happening, next))
    (owes : world.Owes wakers waker) :
    next.Owes wakers waker ∨ Woken wakers waker [happening] := by
  obtain ⟨call, member, owes⟩ := owes
  rcases calls_cases taken with ⟨same, -⟩ | ⟨-, more⟩ |
    ⟨index, moved, woken, after, proxy, found, result, rfl, changed, -⟩
  · exact .inl ⟨call, by rwa [same], owes⟩
  · exact .inl ⟨call, by rw [more]; exact List.mem_append_left _ member, owes⟩
  · obtain ⟨position, inside, there⟩ := List.mem_iff_getElem.mp member
    by_cases here : position = index
    · subst here
      obtain ⟨_, there'⟩ := List.getElem?_eq_some_iff.mp found
      obtain rfl : call = moved := there.symm.trans there'
      rcases WakeCall.step_owes result owes with still | ⟨other, rfl, same⟩
      · exact .inl ⟨after, by rw [changed]; exact List.mem_set inside after, still⟩
      · exact .inr ⟨position, other, List.mem_singleton.mpr rfl, same⟩
    · left
      refine ⟨call, ?_, owes⟩
      rw [changed]
      refine List.mem_of_getElem? (i := position) ?_
      rw [List.getElem?_set_ne (Ne.symm here), List.getElem?_eq_getElem inside, there]

/-- A wake that is past a slot was so before, or has just emptied it. -/
theorem took_cases (taken : step wakers world act = some (happening, next)) {index : Nat}
    {call : WakeCall Waker} (found : next.calls[index]? = some call) (took : call.Took kind) :
    (happening ≠ .called index ∧ ∃ before, world.calls[index]? = some before ∧ before.Took kind) ∨
      next.proxy.slot kind = none := by
  rcases calls_cases taken with ⟨same, quiet⟩ | ⟨rfl, more⟩ |
    ⟨moved, before, woken, after, proxy, there, result, rfl, changed, same⟩
  · rw [same] at found
    exact .inl ⟨quiet index, call, found, took⟩
  · left
    rw [more] at found
    by_cases old : index < world.calls.length
    · rw [List.getElem?_append_left old] at found
      exact ⟨by simp; omega, call, found, took⟩
    · rw [List.getElem?_append_right (by omega)] at found
      have fresh : call = .started := List.mem_singleton.mp (List.mem_of_getElem? found)
      rw [fresh] at took
      exact took.elim
  · rw [changed] at found
    by_cases here : moved = index
    · subst here
      obtain ⟨inside, -⟩ := List.getElem?_eq_some_iff.mp there
      rw [List.getElem?_set_self inside, Option.some.injEq] at found
      subst found
      rcases WakeCall.step_took result took with earlier | empty
      · exact .inl ⟨by simp, before, there, earlier⟩
      · rw [same]
        exact .inr empty
    · rw [List.getElem?_set_ne here] at found
      exact .inl ⟨by simp, call, found, took⟩

end Effects

section Invariants

/-- The last waker registered for a direction has been woken since, is in its
slot, or is held by a wake under way. -/
def Kept (wakers : Wakers Waker Task) (past : List (Happening Waker)) (world : World Waker) :
    Prop :=
  ∀ {kind waker late}, Since kind waker past late →
    Woken wakers waker late ∨ world.proxy.slot kind = some waker ∨ world.Owes wakers waker

/-- A wake called since the last registration leaves the slot empty once it has
passed it. -/
def Emptied (past : List (Happening Waker)) (world : World Waker) : Prop :=
  ∀ {kind waker late index call}, Since kind waker past late → .called index ∈ late →
    world.calls[index]? = some call → call.Took kind → world.proxy.slot kind = none

/-- The operation that registered this waker last has polled the transport
since, and no other has begun. -/
def Polled (kind : ContextKind) (waker : Waker) (past : List (Happening Waker)) : Prop :=
  ∃ late, Since kind waker past late ∧ (∀ happening ∈ late, ¬ happening.Begins) ∧
    .made kind waker .enter ∈ late

/-- An operation that will be pending still has to register its caller and poll
the transport, or has registered it and will poll, or has done both. -/
def Covered (past : List (Happening Waker)) (world : World Waker) : Prop :=
  ∀ {running}, world.running = some running → running.pending = true →
    Watched.Guarded running.left ∨
      (.register ∉ running.left ∧ ∃ late, Since running.kind running.waker past late ∧
        (∀ happening ∈ late, ¬ happening.Begins) ∧
        (.enter ∈ running.left ∨ .made running.kind running.waker .enter ∈ late))

/-- Every operation that returned pending had polled the transport with its
caller registered. -/
def Answered (past : List (Happening Waker)) : Prop :=
  ∀ {front back kind waker}, past = front ++ .returned kind waker true :: back →
    Polled kind waker front

variable {wakers : Wakers Waker Task} {world next : World Waker} {act : Act Waker}
  {happening : Happening Waker} {past : List (Happening Waker)}

private theorem Kept.step (kept : Kept wakers past world)
    (taken : step wakers world act = some (happening, next)) :
    Kept wakers (past ++ [happening]) next := by
  intro kind waker late since
  rcases since.snoc_cases with ⟨registered, rfl⟩ | ⟨other, earlier, rfl, before⟩
  · exact .inr (.inl (slot_registered taken registered))
  · rcases kept before with woken | present | owes
    · exact .inl (woken.append _)
    · exact .inr (slot_kept taken other present)
    · rcases owes_kept taken owes with still | ⟨index, woken, member, same⟩
      · exact .inr (.inr still)
      · exact .inl ⟨index, woken, List.mem_append_right _ member, same⟩

private theorem Emptied.step (emptied : Emptied past world)
    (taken : step wakers world act = some (happening, next)) :
    Emptied (past ++ [happening]) next := by
  intro kind waker late index call since called found took
  rcases since.snoc_cases with ⟨-, rfl⟩ | ⟨other, earlier, rfl, before⟩
  · exact absurd called List.not_mem_nil
  · rcases took_cases taken found took with ⟨apart, old, there, tookBefore⟩ | empty
    · rcases List.mem_append.mp called with already | now
      · exact slot_empty taken other (emptied before already there tookBefore)
      · exact absurd (List.mem_singleton.mp now).symm apart
    · exact empty

/-- A registration that has been polled after, or will be, stays so if nothing
begins. -/
theorem Covered.snoc {kind : ContextKind} {waker : Waker} {left left' : List PollStep}
    (covered : ∃ late, Since kind waker past late ∧ (∀ happening ∈ late, ¬ happening.Begins) ∧
      (.enter ∈ left ∨ .made kind waker .enter ∈ late))
    (other : ¬ happening.Registers kind) (goes : ¬ happening.Begins)
    (moved : .enter ∈ left → .enter ∈ left' ∨ happening = .made kind waker .enter) :
    ∃ late, Since kind waker (past ++ [happening]) late ∧
      (∀ happening ∈ late, ¬ happening.Begins) ∧
      (.enter ∈ left' ∨ .made kind waker .enter ∈ late) := by
  obtain ⟨late, since, own, polled⟩ := covered
  refine ⟨late ++ [happening], since.snoc other, ?_, ?_⟩
  · intro later member
    rcases List.mem_append.mp member with old | new
    · exact own later old
    · rw [List.mem_singleton.mp new]
      exact goes
  · rcases polled with ahead | already
    · rcases moved ahead with still | now
      · exact .inl still
      · exact .inr (List.mem_append_right _ (List.mem_singleton.mpr now.symm))
    · exact .inr (List.mem_append_left _ already)

private theorem guarded_cons {first : PollStep} {left : List PollStep}
    (guarded : Watched.Guarded (first :: left)) :
    Watched.Guarded left ∨ (first = .register ∧ .register ∉ left ∧ .enter ∈ left) := by
  obtain ⟨after, ⟨before, split, silent⟩, polled⟩ := guarded
  cases before with
  | nil =>
    simp only [List.nil_append, List.cons.injEq] at split
    obtain ⟨rfl, rfl⟩ := split
    exact .inr ⟨rfl, silent, polled⟩
  | cons other before =>
    simp only [List.cons_append, List.cons.injEq] at split
    exact .inl ⟨after, ⟨before, split.2, silent⟩, polled⟩

private theorem Covered.step (covered : Covered past world) (permitted : world.Permitted act)
    (taken : step wakers world act = some (happening, next)) :
    Covered (past ++ [happening]) next := by
  intro after underway pending
  rcases step_cases taken with ⟨operation, caller, rfl, -, made⟩ | ⟨running, -, -, -, rfl⟩ |
    ⟨running, left, before, steps, rfl, rfl⟩ | ⟨running, step, left, before, steps, apart, rfl, rfl⟩ |
    ⟨frame, idle, -, rfl⟩ | ⟨rfl, rfl⟩ | ⟨index, call, woken, moved, proxy, -, -, rfl, rfl⟩
  · simp only [begin, Prod.mk.injEq] at made
    rw [made.2] at underway
    obtain rfl := Option.some.inj underway
    exact .inl (Operation.pending_guarded permitted pending)
  · exact absurd underway (by simp)
  · obtain rfl := Option.some.inj underway
    have covered := covered before pending
    rw [steps] at covered
    rcases covered with guarded | ⟨none, -⟩
    · rcases guarded_cons guarded with later | ⟨-, none, polled⟩
      · exact .inl later
      · exact .inr ⟨none, [], Since.registered _ _ _, by simp, .inl polled⟩
    · exact absurd List.mem_cons_self none
  · obtain rfl := Option.some.inj underway
    have covered := covered before pending
    rw [steps] at covered
    rcases covered with guarded | ⟨none, since⟩
    · rcases guarded_cons guarded with later | ⟨registers, -⟩
      · exact .inl later
      · exact absurd registers apart
    · refine .inr ⟨fun member => none (List.mem_cons_of_mem _ member), ?_⟩
      refine Covered.snoc since ?_ id ?_
      · intro registers
        cases step with
        | register => exact apart rfl
        | enter => exact registers
        | leave pending => exact registers
      · intro ahead
        rcases List.mem_cons.mp ahead with rfl | rest
        · exact .inr rfl
        · exact .inl rest
  · simp [idle] at underway
  · rcases covered underway pending with guarded | ⟨none, since⟩
    · exact .inl guarded
    · exact .inr ⟨none, Covered.snoc since id id .inl⟩
  · rcases covered underway pending with guarded | ⟨none, since⟩
    · exact .inl guarded
    · exact .inr ⟨none, Covered.snoc since id id .inl⟩

private theorem Answered.step (answered : Answered past) (covered : Covered past world)
    (taken : step wakers world act = some (happening, next)) :
    Answered (past ++ [happening]) := by
  intro front back kind waker split
  rcases List.eq_nil_or_concat back with rfl | ⟨earlier, final, rfl⟩
  · have parts := List.append_inj' split rfl
    obtain rfl := parts.1
    obtain rfl := List.singleton_inj.mp parts.2
    rcases step_cases taken with ⟨operation, caller, -, -, made⟩ | ⟨running, before, steps, made, -⟩ |
      ⟨running, left, -, -, made, -⟩ | ⟨running, step, left, -, -, -, made, -⟩ |
      ⟨frame, -, made, -⟩ | ⟨made, -⟩ | ⟨index, call, woken, after, proxy, -, -, made, -⟩
    · simp [begin] at made
    · simp only [Happening.returned.injEq] at made
      obtain ⟨rfl, rfl, pending⟩ := made
      have covered := covered before pending.symm
      rw [steps] at covered
      rcases covered with ⟨after, ⟨before, none, -⟩, -⟩ | ⟨-, late, since, own, polled⟩
      · exact absurd none (by simp)
      · exact ⟨late, since, own, polled.resolve_left List.not_mem_nil⟩
    all_goals simp at made
  · rw [List.concat_eq_append] at split
    have split : past ++ [happening] = (front ++ .returned kind waker true :: earlier) ++ [final] := by
      simpa using split
    exact answered (List.append_inj' split rfl).1

end Invariants

section Runs

variable {wakers : Wakers Waker Task} {connection : Streaming}
  {seen : List (Act Waker × Happening Waker)} {world : World Waker}

/-- The invariants hold of every run. -/
theorem run_sound (run : Trace.Run (step wakers) Permitted (new connection) seen world) :
    Kept wakers (seen.map Prod.snd) world ∧ Emptied (seen.map Prod.snd) world ∧
      Covered (seen.map Prod.snd) world ∧ Answered (seen.map Prod.snd) := by
  refine Trace.Run.follows (motive := fun past world =>
    Kept wakers (past.map Prod.snd) world ∧ Emptied (past.map Prod.snd) world ∧
      Covered (past.map Prod.snd) world ∧ Answered (past.map Prod.snd)) ?_ run ?_
  · intro past state act happening next permitted taken sound
    obtain ⟨kept, emptied, covered, answered⟩ := sound
    rw [List.map_append]
    exact ⟨kept.step taken, emptied.step taken, covered.step permitted taken,
      answered.step covered taken⟩
  · have nothing {kind : ContextKind} {waker : Waker} {late : List (Happening Waker)}
        (since : Since kind waker [] late) : False := by
      obtain ⟨early, split, -⟩ := since
      exact absurd split (by simp)
    refine ⟨?_, ?_, ?_, ?_⟩
    · intro kind waker late since
      exact (nothing since).elim
    · intro kind waker late index call since
      exact (nothing since).elim
    · intro running underway
      exact absurd underway (by simp [new])
    · intro front back kind waker split
      exact absurd split (by simp)

/-- Once an operation has returned pending, and until its direction gets a new
waker, its task has been woken since the operation registered it, or its waker
is in its slot and the next wake wakes it, or a wake under way has taken it.
Every wake called since the registration, which came before the last poll of the
transport, has woken the task when it is over, or leaves it to another wake
under way. -/
theorem no_lost_wakeup (run : Trace.Run (step wakers) Permitted (new connection) seen world)
    {front back : List (Happening Waker)} {kind : ContextKind} {waker : Waker}
    (returned : seen.map Prod.snd = front ++ .returned kind waker true :: back)
    (current : ∀ happening ∈ back, ¬ happening.Registers kind) :
    ∃ early late, front = early ++ .made kind waker .register :: late ∧
      (∀ happening ∈ late, ¬ happening.Registers kind ∧ ¬ happening.Begins) ∧
      .made kind waker .enter ∈ late ∧
      (Woken wakers waker (late ++ back) ∨
        (world.proxy.slot kind = some waker ∧
          ∃ woken ∈ (world.proxy.wakeByRef wakers).1, wakers.task woken = wakers.task waker) ∨
        world.Owes wakers waker) ∧
      (∀ index, .called index ∈ late ++ back → world.calls[index]? = some .finished →
        Woken wakers waker (late ++ back) ∨ world.Owes wakers waker) ∧
      (world.Quiet → ¬ world.Owes wakers waker) := by
  obtain ⟨kept, emptied, -, answered⟩ := run_sound run
  obtain ⟨late, ⟨early, split, silent⟩, own, polled⟩ := answered returned
  have since : Since kind waker (seen.map Prod.snd) (late ++ .returned kind waker true :: back) := by
    rw [returned]
    refine Since.append ⟨early, split, silent⟩ ?_
    intro happening member
    rcases List.mem_cons.mp member with rfl | later
    · exact id
    · exact current happening later
  -- the return itself wakes nobody
  have woken (woken : Woken wakers waker (late ++ .returned kind waker true :: back)) :
      Woken wakers waker (late ++ back) := by
    obtain ⟨index, other, member, same⟩ := woken
    exact ⟨index, other, by simpa using member, same⟩
  refine ⟨early, late, split, fun happening member => ⟨silent happening member,
    own happening member⟩, polled, ?_, ?_, fun quiet => quiet.not_owes wakers waker⟩
  · rcases kept since with already | present | owes
    · exact .inl (woken already)
    · exact .inr (.inl ⟨present, WakeProxy.woken_of_slot wakers present⟩)
    · exact .inr (.inr owes)
  · intro index called finished
    have called' : .called index ∈ late ++ .returned kind waker true :: back := by
      simpa using called
    have empty := emptied since called' finished trivial
    rcases kept since with already | present | owes
    · exact .inl (woken already)
    · rw [empty] at present
      exact absurd present (by simp)
    · exact .inr owes

/-- Wakers that are the tasks themselves. -/
def plainWakers : Wakers Nat Nat :=
  { task := id, willWake := fun first second => first == second, sameTask := by simp }

/-- A connection on which nothing arrives. -/
def silent : Streaming := .new .stored (.new [] [] 0) .plain

/-- A read that waits, and the wake that comes for it. -/
theorem no_lost_wakeup_of_read :
    ∃ (seen : List (Act Nat × Happening Nat)) (world : World Nat)
      (front back : List (Happening Nat)),
      Trace.Run (step plainWakers) Permitted (new silent) seen world ∧
        seen.map Prod.snd = front ++ .returned .read 7 true :: back ∧ world.Quiet ∧
        ∃ early late, front = early ++ .made .read 7 .register :: late ∧
          Woken plainWakers 7 (late ++ back) := by
  have run : Trace.Run (step plainWakers) Permitted (new silent)
      [(.begin (.nextFrame 10) 7, .began .read 7), (.advance, .made .read 7 .register),
        (.advance, .made .read 7 .enter), (.advance, .made .read 7 (.leave true)),
        (.advance, .returned .read 7 true), (.wake, .called 0), (.proceed 0, .proceeded 0 none),
        (.proceed 0, .proceeded 0 none), (.proceed 0, .proceeded 0 (some 7))]
      { connection := silent, proxy := .default, calls := [.finished], running := none } :=
    .cons trivial rfl (.cons trivial rfl (.cons trivial rfl (.cons trivial rfl
      (.cons trivial rfl (.cons trivial rfl (.cons trivial rfl (.cons trivial rfl
        (.cons trivial rfl .nil))))))))
  have quiet : @World.Quiet Nat
      { connection := silent, proxy := .default, calls := [.finished], running := none } := by
    intro call member
    exact List.mem_singleton.mp member
  obtain ⟨early, late, split, -, -, -, ended, free⟩ := @no_lost_wakeup _ _ _ _ _ _ run
    [.began .read 7, .made .read 7 .register, .made .read 7 .enter, .made .read 7 (.leave true)]
    [.called 0, .proceeded 0 none, .proceeded 0 none, .proceeded 0 (some 7)] .read 7 rfl
    (by simp [Happening.Registers])
  refine ⟨_, _, [.began .read 7, .made .read 7 .register, .made .read 7 .enter,
    .made .read 7 (.leave true)], [.called 0, .proceeded 0 none, .proceeded 0 none,
      .proceeded 0 (some 7)], run, rfl, quiet, early, late, split, ?_⟩
  exact (ended 0 (by simp) rfl).resolve_right (free quiet)

end Runs

end World

end Yawc
