import Yawc.Native.Streaming

/-! The operations of the connection with what they do to the wakers: when the
caller's waker is registered, and when the transport is polled with the proxy's.
What they return and do to the connection is unchanged. -/

namespace Yawc

/-- A step of an operation that others can see. A poll of the transport is
entered and left, as a wake may come in between. -/
inductive PollStep where
  | register
  | enter
  | leave (pending : Bool)
  deriving DecidableEq

/-- A connection and the steps made on it so far. -/
structure Watched where
  connection : Streaming
  steps : List PollStep

namespace Watched

variable {Value : Type}

def setWaker (self : Watched) : Watched := { self with steps := self.steps ++ [.register] }

/-- One poll of the transport with the proxy's waker. -/
def withContext (poll : Streaming → Poll Value × Streaming) (self : Watched) :
    Poll Value × Watched :=
  let (answer, connection) := poll self.connection
  (answer, { connection, steps := self.steps ++ [.enter, .leave answer.isPending] })

/-- The caller is registered only once the first poll is pending, and readiness
is checked again afterwards. -/
def pollWithContext (poll : Streaming → Poll Value × Streaming) (self : Watched) :
    Poll Value × Watched :=
  match self.withContext poll with
  | (.ready value, self) => (.ready value, self)
  | (.pending, self) => self.setWaker.withContext poll

def pollFlushObligated (self : Watched) : Reply × Watched :=
  if self.connection.obligatedSends.isEmpty ∧ ¬ self.connection.flushSends then
    (.ready (.ok ()), self)
  else self.pollWithContext Streaming.flushObligated

/-- `below` says that the write buffer is below the backpressure boundary. Then
the sink is asked with the caller's own waker. -/
def pollReady (self : Watched) (below : Bool) : Reply × Watched :=
  if self.connection.obligatedSends.isEmpty ∧ ¬ self.connection.flushSends ∧ below then
    let (reply, connection) := self.connection.pollWriteReady
    (reply, { self with connection })
  else
    Poll.andThen self.setWaker.pollFlushObligated fun _ self =>
      self.withContext Streaming.pollWriteReady

def pollFlush (self : Watched) : Reply × Watched :=
  self.setWaker.withContext Streaming.pollFlush

def pollClose (self : Watched) : Reply × Watched :=
  self.setWaker.withContext Streaming.pollClose

/-- With an empty read buffer the caller is registered at once. -/
def pollReader (self : Watched) : Poll (Result Frame) × Watched :=
  if self.connection.stream.hasBuffered then self.pollWithContext Streaming.pollFrame
  else self.setWaker.withContext Streaming.pollFrame

def onPolled (self : Watched) (polled : Poll (Result Frame)) (maxReadBuffer : Nat) :
    Poll (Result Frame) × Watched :=
  let (result, self) : Poll (Result Frame) × Watched := match polled with
    | .ready (.ok frame) =>
      let (result, connection) := self.connection.onFrame frame maxReadBuffer
      (.ready result, { self with connection })
    | other => (other, self)
  match result with
  | .ready (.ok frame) => (.ready (.ok frame), self)
  | .ready (.error .connectionClosed) =>
    Poll.andThen self.pollFlushObligated fun _ self => (.ready (.error .connectionClosed), self)
  | .ready (.error error) =>
    (.ready (.error error),
      { self with connection := self.connection.emitClose (Streaming.closeFor error) })
  | .pending => Poll.andThen self.pollFlushObligated fun _ self => (.pending, self)

def pollNextFrameWithLimit (self : Watched) (maxReadBuffer : Nat) :
    Poll (Result Frame) × Watched :=
  let (polled, self) := self.pollReader
  self.onPolled polled maxReadBuffer

section Forgetting

/-- What is left of an answer without the steps. -/
def forget (answered : Poll Value × Watched) : Poll Value × Streaming :=
  (answered.1, answered.2.connection)

theorem forget_withContext (poll : Streaming → Poll Value × Streaming) (self : Watched) :
    forget (self.withContext poll) = poll self.connection := rfl

theorem forget_pollWithContext (poll : Streaming → Poll Value × Streaming) (self : Watched) :
    forget (self.pollWithContext poll) = Poll.again poll self.connection := by
  unfold pollWithContext Poll.again withContext
  cases poll self.connection with
  | mk answer connection => cases answer <;> rfl

theorem forget_andThen {Value Other : Type} {attempt : Poll.Attempt WebSocketError Watched Value}
    {attempt' : Poll.Attempt WebSocketError Streaming Value}
    {next : Value → Watched → Poll.Attempt WebSocketError Watched Other}
    {next' : Value → Streaming → Poll.Attempt WebSocketError Streaming Other}
    (first : forget attempt = attempt')
    (second : ∀ value self, forget (next value self) = next' value self.connection) :
    forget (Poll.andThen attempt next) = Poll.andThen attempt' next' := by
  subst first
  obtain ⟨answer, self⟩ := attempt
  cases answer with
  | pending => rfl
  | ready result =>
    cases result with
    | error error => rfl
    | ok value => exact second value self

theorem forget_pollFlushObligated (self : Watched) :
    forget self.pollFlushObligated = self.connection.pollFlushObligated := by
  unfold pollFlushObligated Streaming.pollFlushObligated
  split
  · rfl
  · exact forget_pollWithContext _ self

/-- The way `pollReady` takes changes who is woken, not what it answers. -/
theorem forget_pollReady (self : Watched) (below : Bool) :
    forget (self.pollReady below) = self.connection.pollReady := by
  unfold pollReady Streaming.pollReady
  by_cases nothing : self.connection.obligatedSends.isEmpty ∧ ¬ self.connection.flushSends
  · rw [if_pos nothing]
    split
    · rfl
    · have asked : forget (Poll.andThen self.setWaker.pollFlushObligated fun _ self =>
          self.withContext Streaming.pollWriteReady) =
          Poll.andThen self.setWaker.connection.pollFlushObligated fun _ self =>
            self.pollWriteReady :=
        forget_andThen self.setWaker.forget_pollFlushObligated fun _ _ => rfl
      have idle : self.setWaker.connection.pollFlushObligated = (.ready (.ok ()), self.connection) :=
        if_pos nothing
      rw [asked, idle, Poll.andThen_ok]
  · rw [if_neg nothing, if_neg (fun fast => nothing ⟨fast.1, fast.2.1⟩)]
    exact forget_andThen self.setWaker.forget_pollFlushObligated fun _ _ => rfl

theorem forget_pollFlush (self : Watched) : forget self.pollFlush = self.connection.pollFlush := rfl

theorem forget_pollClose (self : Watched) : forget self.pollClose = self.connection.pollClose := rfl

private theorem forget_pollReader (self : Watched) :
    forget self.pollReader = self.connection.pollReader := by
  unfold pollReader Streaming.pollReader
  split
  · exact forget_pollWithContext _ self
  · rfl

private theorem forget_onPolled (self : Watched) (polled : Poll (Result Frame))
    (maxReadBuffer : Nat) :
    forget (self.onPolled polled maxReadBuffer) =
      self.connection.onPolled polled maxReadBuffer := by
  have closing (self : Watched) :
      forget (Poll.andThen self.pollFlushObligated fun _ self =>
        (.ready (.error .connectionClosed), self)) =
      Poll.andThen self.connection.pollFlushObligated fun _ self =>
        ((.ready (.error .connectionClosed) : Poll (Result Frame)), self) :=
    forget_andThen self.forget_pollFlushObligated fun _ _ => rfl
  have failing (self : Watched) (error : WebSocketError) :
      forget (self.onPolled (.ready (.error error)) maxReadBuffer) =
        self.connection.onPolled (.ready (.error error)) maxReadBuffer := by
    cases error <;> first | exact closing self | rfl
  cases polled with
  | pending => exact forget_andThen self.forget_pollFlushObligated fun _ _ => rfl
  | ready result =>
    cases result with
    | error error => exact failing self error
    | ok frame =>
      cases received : self.connection.onFrame frame maxReadBuffer with
      | mk result connection =>
        cases result with
        | ok frame => simp only [onPolled, Streaming.onPolled, received, forget]
        | error error =>
          have later := failing { self with connection } error
          simp only [onPolled, Streaming.onPolled, received] at later ⊢
          exact later

theorem forget_pollNextFrameWithLimit (self : Watched) (maxReadBuffer : Nat) :
    forget (self.pollNextFrameWithLimit maxReadBuffer) =
      self.connection.pollNextFrameWithLimit maxReadBuffer := by
  unfold pollNextFrameWithLimit Streaming.pollNextFrameWithLimit
  rw [← forget_pollReader]
  exact forget_onPolled _ _ maxReadBuffer

end Forgetting

section Guarding

/-- The caller has been registered, and with `after` the steps since. -/
def RegisteredBefore (steps after : List PollStep) : Prop :=
  ∃ before, steps = before ++ .register :: after ∧ .register ∉ after

/-- The caller has been registered. -/
def Armed (steps : List PollStep) : Prop := ∃ after, RegisteredBefore steps after

/-- The last registration of the caller came before the last poll of the
transport. -/
def Guarded (steps : List PollStep) : Prop := ∃ after, RegisteredBefore steps after ∧ .enter ∈ after

private theorem RegisteredBefore.append {steps after more : List PollStep}
    (registered : RegisteredBefore steps after) (none : .register ∉ more) :
    RegisteredBefore (steps ++ more) (after ++ more) := by
  obtain ⟨before, rfl, silent⟩ := registered
  refine ⟨before, by simp, ?_⟩
  simp [silent, none]

theorem Guarded.armed {steps : List PollStep} (guarded : Guarded steps) : Armed steps := by
  obtain ⟨after, registered, -⟩ := guarded
  exact ⟨after, registered⟩

theorem armed_setWaker (self : Watched) : Armed self.setWaker.steps :=
  ⟨[], self.steps, rfl, List.not_mem_nil⟩

/-- A poll of a registered caller is guarded. -/
theorem guarded_withContext (poll : Streaming → Poll Value × Streaming) {self : Watched}
    (armed : Armed self.steps) : Guarded (self.withContext poll).2.steps := by
  obtain ⟨after, registered⟩ := armed
  refine ⟨_, registered.append ?_, List.mem_append_right _ ?_⟩
  · simp
  · simp

theorem guarded_pollWithContext (poll : Streaming → Poll Value × Streaming) {self : Watched}
    (armed : Armed self.steps) : Guarded (self.pollWithContext poll).2.steps := by
  unfold pollWithContext
  have once := guarded_withContext poll armed
  cases result : self.withContext poll with
  | mk answer next =>
    rw [result] at once
    cases answer with
    | ready value => exact once
    | pending => exact guarded_withContext poll next.armed_setWaker

/-- Polled twice, the caller is registered in between. -/
theorem pending_pollWithContext (poll : Streaming → Poll Value × Streaming) {self : Watched}
    (pending : (self.pollWithContext poll).1 = .pending) :
    Guarded (self.pollWithContext poll).2.steps := by
  unfold pollWithContext at pending ⊢
  cases result : self.withContext poll with
  | mk answer next =>
    rw [result] at pending
    cases answer with
    | ready value => exact absurd pending (by simp)
    | pending => exact guarded_withContext poll next.armed_setWaker

private theorem armed_pollFlushObligated {self : Watched} (armed : Armed self.steps) :
    Armed self.pollFlushObligated.2.steps := by
  unfold pollFlushObligated
  split
  · exact armed
  · exact (guarded_pollWithContext _ armed).armed

private theorem guarded_pollFlushObligated {self : Watched} (guarded : Guarded self.steps) :
    Guarded self.pollFlushObligated.2.steps := by
  unfold pollFlushObligated
  split
  · exact guarded
  · exact guarded_pollWithContext _ guarded.armed

theorem pending_pollFlushObligated {self : Watched}
    (pending : self.pollFlushObligated.1 = .pending) :
    Guarded self.pollFlushObligated.2.steps := by
  unfold pollFlushObligated at pending ⊢
  split at pending
  · exact absurd pending (by simp)
  · rename_i owed
    rw [if_neg owed]
    exact pending_pollWithContext _ pending

/-- Off the fast way a pending answer of `pollReady` is guarded. -/
theorem pending_pollReady {self : Watched} {below : Bool}
    (slow : self.connection.obligatedSends.isEmpty → ¬ self.connection.flushSends → below →
      self.connection.pollWriteReady.1 ≠ .pending)
    (pending : (self.pollReady below).1 = .pending) : Guarded (self.pollReady below).2.steps := by
  unfold pollReady at pending ⊢
  split at pending
  · rename_i fast
    exact absurd pending (slow fast.1 fast.2.1 fast.2.2)
  · rename_i other
    rw [if_neg other]
    have armed := armed_pollFlushObligated self.armed_setWaker
    have waiting := @pending_pollFlushObligated self.setWaker
    cases result : self.setWaker.pollFlushObligated with
    | mk answer next =>
      rw [result] at pending armed waiting
      cases answer with
      | pending => exact waiting rfl
      | ready outcome =>
        cases outcome with
        | error error => exact absurd pending (by simp)
        | ok value => exact guarded_withContext Streaming.pollWriteReady armed

theorem guarded_pollFlush (self : Watched) : Guarded self.pollFlush.2.steps :=
  guarded_withContext _ self.armed_setWaker

theorem guarded_pollClose (self : Watched) : Guarded self.pollClose.2.steps :=
  guarded_withContext _ self.armed_setWaker

private theorem pending_pollReader {self : Watched} (pending : self.pollReader.1 = .pending) :
    Guarded self.pollReader.2.steps := by
  unfold pollReader at pending ⊢
  split at pending
  · rename_i buffered
    rw [if_pos buffered]
    exact pending_pollWithContext _ pending
  · rename_i empty
    rw [if_neg empty]
    exact guarded_withContext _ self.armed_setWaker

/-- A read that waits for what it owes to be flushed. -/
theorem pending_flushing {Value : Type} {self : Watched} (last : Poll (Result Value))
    (guarded : last = .pending → Guarded self.steps)
    (pending : (Poll.andThen self.pollFlushObligated fun _ self => (last, self)).1 = .pending) :
    Guarded (Poll.andThen self.pollFlushObligated fun _ self => (last, self)).2.steps := by
  have kept (read : Guarded self.steps) := guarded_pollFlushObligated read
  have waiting := @pending_pollFlushObligated self
  cases result : self.pollFlushObligated with
  | mk answer next =>
    rw [result] at pending kept waiting
    cases answer with
    | pending => exact waiting rfl
    | ready outcome =>
      cases outcome with
      | error error => exact absurd pending (by simp)
      | ok value => exact kept (guarded pending)

private theorem pending_onPolled {self : Watched} {polled : Poll (Result Frame)}
    {maxReadBuffer : Nat}
    (guarded : polled = .pending → Guarded self.steps)
    (pending : (self.onPolled polled maxReadBuffer).1 = .pending) :
    Guarded (self.onPolled polled maxReadBuffer).2.steps := by
  have failing (self : Watched) (error : WebSocketError)
      (pending : (self.onPolled (.ready (.error error)) maxReadBuffer).1 = .pending) :
      Guarded (self.onPolled (.ready (.error error)) maxReadBuffer).2.steps := by
    by_cases closed : error = .connectionClosed
    · subst closed
      exact pending_flushing _ (by simp) pending
    · cases error <;> first | exact absurd rfl closed | exact absurd pending (by simp [onPolled])
  cases polled with
  | pending => exact pending_flushing _ (fun _ => guarded rfl) pending
  | ready result =>
    cases result with
    | error error => exact failing self error pending
    | ok frame =>
      cases received : self.connection.onFrame frame maxReadBuffer with
      | mk result connection =>
        cases result with
        | ok frame => simp [onPolled, received] at pending
        | error error =>
          have later := failing { self with connection } error
          simp only [onPolled, received] at pending later ⊢
          exact later pending

/-- A read that answers pending was registered before it last polled the
transport. -/
theorem pending_pollNextFrameWithLimit {self : Watched} {maxReadBuffer : Nat}
    (pending : (self.pollNextFrameWithLimit maxReadBuffer).1 = .pending) :
    Guarded (self.pollNextFrameWithLimit maxReadBuffer).2.steps :=
  pending_onPolled pending_pollReader pending

end Guarding

end Watched

end Yawc
