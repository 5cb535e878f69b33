import Yawc.Native.Effects
import Yawc.Library.Trace

/-! What a finished close says about the sink: the writer's calls in any order,
over every behaviour of the sink. -/

namespace Yawc

/-- The writer and the sink it drives. -/
structure Writer where
  half : WriteHalf
  stream : Framed

namespace Writer

inductive Call where
  | pollReady
  | startSend (frame : Frame)
  | pollFlush
  | pollClose
  deriving DecidableEq

def new (incoming : List Arrival) (replies : List Reply) (clock : Nat) : Writer :=
  { half := .new, stream := .new incoming replies clock }

def step : Trace.Step Writer Call Reply
  | { half, stream }, .pollReady =>
    let (reply, stream) := half.pollReady stream
    some (reply, { half, stream })
  | { half, stream }, .startSend frame =>
    let (result, half, stream) := half.startSend stream frame
    some (.ready result, { half, stream })
  | { half, stream }, .pollFlush =>
    let (reply, stream) := WriteHalf.pollFlush stream
    some (reply, { half, stream })
  | { half, stream }, .pollClose =>
    let (reply, half, stream) := half.pollClose stream
    some (reply, { half, stream })

end Writer

section Conditions

/-- The answer is no error. -/
def Reply.Fine (reply : Reply) : Prop := ∀ error, reply ≠ .ready (.error error)

namespace Framed

/-- The sink does not fail the next call, a close. -/
def ClosesWell (self : Framed) : Prop := self.nextReply.Fine

/-- Nor does it fail a flush, and the close behind it. -/
def FlushesWell (self : Framed) : Prop :=
  self.nextReply.Fine ∧ (self.nextReply ≠ .pending → self.pollFlush.2.ClosesWell)

/-- The same for a frame that is sent first, if the sink takes it. -/
def SendsWell (self : Framed) (frame : Frame) : Prop :=
  self.nextReply ≠ .pending → self.pollReady.2.nextReply.Fine →
    (self.pollReady.2.startSend frame).2.FlushesWell

end Framed

/-- The sink fails no flush and no close of this call. -/
def WriteHalf.ClosesWell (self : WriteHalf) (stream : Framed) : Prop :=
  match self.closeState with
  | none => stream.SendsWell (Frame.close .normal [])
  | some (.sending frame) => stream.SendsWell frame
  | some .flushing => stream.FlushesWell
  | some .closing => stream.ClosesWell
  | some .done => True

namespace Writer

/-- The sink fails neither the last steps of a close nor a Close frame that the
caller hands over. -/
def Unfailed (self : Writer) : Call → Prop
  | .pollReady | .pollFlush => True
  | .startSend frame => frame.opcode = .close → self.stream.nextReply.Fine
  | .pollClose => self.half.ClosesWell self.stream

/-- The caller hands over no second Close frame, and starts no close behind a Close
frame: one that has come to its end leaves no state, so the next call would send
another. -/
def Once (self : Writer) : Call → Prop
  | .startSend frame => frame.opcode = .close → NoClose self.stream.handed
  | .pollClose => self.half.closeState = none → NoClose self.stream.handed
  | .pollReady | .pollFlush => True

end Writer

end Conditions

/-- A Close frame that the sink accepted, with these answers behind it in this
order. -/
def Event.Closed (later log : List Event) : Prop :=
  ∃ frame, frame.opcode = .close ∧ (.startSend frame (.ok ()) :: later).Sublist log

/-- A Close frame accepted, then a flush, then a close of the sink. -/
def Event.Graceful (log : List Event) : Prop :=
  Closed [.pollFlush (.ready (.ok ())), .pollClose (.ready (.ok ()))] log

namespace Event.Closed

theorem append {later log : List Event} (closed : Closed later log) (more : List Event) :
    Closed later (log ++ more) := by
  obtain ⟨frame, close, sublist⟩ := closed
  exact ⟨frame, close, sublist.trans (List.sublist_append_left log more)⟩

theorem next {later log : List Event} (closed : Closed later log) (event : Event) :
    Closed (later ++ [event]) (log ++ [event]) := by
  obtain ⟨frame, close, sublist⟩ := closed
  exact ⟨frame, close, sublist.append (List.Sublist.refl [event])⟩

theorem start {frame : Frame} (close : frame.opcode = .close) (log : List Event) :
    Closed [] (log ++ [.startSend frame (.ok ())]) :=
  ⟨frame, close, List.sublist_append_right log _⟩

end Event.Closed

section Stages

/-- How far the close has come. -/
def CloseState.Reached (log : List Event) : Option CloseState → Prop
  | none => True
  | some (.sending frame) => frame.opcode = .close
  | some .flushing => Event.Closed [] log
  | some .closing => Event.Closed [.pollFlush (.ready (.ok ()))] log
  | some .done => Event.Graceful log

theorem CloseState.Reached.append {closeState : Option CloseState} {log : List Event}
    (reached : CloseState.Reached log closeState) (more : List Event) :
    CloseState.Reached (log ++ more) closeState := by
  cases closeState with
  | none => trivial
  | some closeState =>
    cases closeState with
    | sending frame => exact reached
    | flushing => exact Event.Closed.append reached more
    | closing => exact Event.Closed.append reached more
    | done => exact Event.Closed.append reached more

/-- An answer that is neither an error nor pending. -/
theorem Reply.Fine.ok {reply : Reply} {value : Result Unit} (fine : reply.Fine)
    (same : reply = .ready value) : reply = .ready (.ok ()) := by
  cases value with
  | ok _ => exact same
  | error error => exact absurd same (fine error)

/-- A frame is taken unless the sink answers with an error. -/
theorem Framed.startSend_ok (self : Framed) (frame : Frame) :
    (self.startSend frame).1 = .ok () ↔ self.nextReply.Fine := by
  unfold Framed.startSend Reply.Fine
  cases self.nextReply with
  | pending => simp
  | ready value =>
    cases value with
    | ok _ => simp
    | error error => simp

theorem Framed.log_startSend (self : Framed) (frame : Frame) :
    (self.startSend frame).2.log =
      self.log ++ [.startSend frame (self.startSend frame).1] := rfl

/-- What a call of a close has reached: success means the end. -/
structure CloseState.Attempted (attempt : Reply × WriteHalf × Framed) : Prop where
  reached : CloseState.Reached attempt.2.2.log attempt.2.1.closeState
  finished : attempt.1 = .ready (.ok ()) → Event.Graceful attempt.2.2.log

namespace WriteHalf

open CloseState (Attempted Reached)

variable {self : WriteHalf} {stream : Framed}

theorem pollClosing_attempted (closed : Event.Closed [.pollFlush (.ready (.ok ()))] stream.log)
    (well : stream.ClosesWell) : Attempted (self.pollClosing stream) := by
  unfold pollClosing
  simp only [Framed.pollClose]
  cases reply : stream.nextReply with
  | pending =>
    refine ⟨?_, by simp⟩
    exact closed.append _
  | ready value =>
    have succeeded := Reply.Fine.ok well reply
    rw [reply] at succeeded
    rw [succeeded]
    exact ⟨trivial, fun _ => closed.next _⟩

theorem pollFlushing_attempted (closed : Event.Closed [] stream.log) (well : stream.FlushesWell) :
    Attempted (self.pollFlushing stream) := by
  unfold pollFlushing
  simp only [Framed.pollFlush]
  cases reply : stream.nextReply with
  | pending =>
    refine ⟨?_, by simp⟩
    exact closed.append _
  | ready value =>
    have succeeded := Reply.Fine.ok well.1 reply
    have later := well.2 (by simp [reply])
    simp only [Framed.pollFlush, succeeded] at later
    rw [reply] at succeeded
    simp only [succeeded] at later ⊢
    exact pollClosing_attempted (closed.next _) later

private theorem pollSending_attempted {frame : Frame} (close : frame.opcode = .close)
    (well : stream.SendsWell frame) : Attempted (self.pollSending stream frame) := by
  unfold pollSending
  cases polled : stream.pollReady with
  | mk reply ready =>
    have answer : stream.nextReply = reply := congrArg Prod.fst polled
    cases reply with
    | pending => exact ⟨close, by simp⟩
    | ready value =>
      have taken := well (by simp [answer])
      rw [polled] at taken
      simp only
      cases sent : ready.startSend frame with
      | mk result after =>
        cases result with
        | error error => exact ⟨trivial, by simp⟩
        | ok _ =>
          have fine := (ready.startSend_ok frame).mp (by rw [sent])
          have logged := ready.log_startSend frame
          rw [sent] at taken logged
          have closed := Event.Closed.start close ready.log
          rw [← logged] at closed
          exact pollFlushing_attempted closed (taken fine)

private theorem pollClose_attempted (reached : Reached stream.log self.closeState)
    (well : self.ClosesWell stream) : Attempted (self.pollClose stream) := by
  unfold ClosesWell at well
  unfold pollClose
  split
  · rename_i state
    rw [state] at well
    exact pollSending_attempted rfl well
  · rename_i frame state
    rw [state] at reached well
    exact pollSending_attempted reached well
  · rename_i state
    rw [state] at reached well
    exact pollFlushing_attempted reached well
  · rename_i state
    rw [state] at reached well
    exact pollClosing_attempted reached well
  · rename_i state
    rw [state] at reached
    exact ⟨trivial, fun _ => reached⟩

private theorem startSend_reached {frame : Frame} (reached : Reached stream.log self.closeState)
    (taken : frame.opcode = .close → stream.nextReply.Fine) :
    Reached (self.startSend stream frame).2.2.log
      (self.startSend stream frame).2.1.closeState := by
  change Reached (stream.startSend frame).2.log (self.onSend frame).closeState
  rw [stream.log_startSend]
  by_cases close : frame.opcode = .close
  · rw [(stream.startSend_ok frame).mpr (taken close)]
    simp only [onSend, close, ↓reduceIte]
    exact Event.Closed.start close stream.log
  · simp only [onSend, close, ↓reduceIte]
    exact reached.append _

end WriteHalf

namespace Writer

/-- The close is as far as its state says. -/
def Staged (self : Writer) : Prop := CloseState.Reached self.stream.log self.half.closeState

private theorem step_staged {self next : Writer} {call : Call} {reply : Reply}
    (unfailed : self.Unfailed call) (taken : step self call = some (reply, next))
    (staged : self.Staged) :
    next.Staged ∧ (call = .pollClose → reply = .ready (.ok ()) →
      Event.Graceful next.stream.log) := by
  cases call with
  | pollReady =>
    simp only [step, Option.some.injEq, Prod.mk.injEq] at taken
    obtain ⟨-, rfl⟩ := taken
    refine ⟨?_, by simp⟩
    unfold Staged WriteHalf.pollReady
    split
    · exact staged
    · exact staged.append _
  | startSend frame =>
    simp only [step, Option.some.injEq, Prod.mk.injEq] at taken
    obtain ⟨-, rfl⟩ := taken
    exact ⟨WriteHalf.startSend_reached staged unfailed, by simp⟩
  | pollFlush =>
    simp only [step, Option.some.injEq, Prod.mk.injEq] at taken
    obtain ⟨-, rfl⟩ := taken
    exact ⟨staged.append _, by simp⟩
  | pollClose =>
    simp only [step, Option.some.injEq, Prod.mk.injEq] at taken
    obtain ⟨rfl, rfl⟩ := taken
    have attempted := WriteHalf.pollClose_attempted staged unfailed
    exact ⟨attempted.reached, fun _ => attempted.finished⟩

end Writer

end Stages

section Counting

/-- The Close frames handed to the codec. -/
def Framed.closes (self : Framed) : List Frame := self.handed.filter (·.opcode = .close)

/-- While a close is to send its Close frame there is none, and then there is one. -/
def CloseState.Counts (closes : List Frame) : Option CloseState → Prop
  | none => closes.length ≤ 1
  | some (.sending frame) => frame.opcode = .close ∧ closes = []
  | some _ => closes.length = 1

private theorem CloseState.Counts.one {half : WriteHalf} {closes : List Frame}
    (counts : CloseState.Counts closes half.closeState) (sent : half.closeSent) :
    closes.length = 1 := by
  unfold WriteHalf.closeSent at sent
  unfold CloseState.Counts at counts
  split at counts
  · rename_i state
    simp [state] at sent
  · rename_i state
    simp [state] at sent
  · exact counts

theorem NoClose.closes {self : Framed} (none : NoClose self.handed) : self.closes = [] := by
  simpa [Framed.closes, NoClose] using none

namespace Framed.Healthy

variable {self : Framed}

theorem fine (healthy : self.Healthy) : self.nextReply.Fine := healthy.nextReply

theorem closesWell (healthy : self.Healthy) : self.ClosesWell := healthy.fine

theorem flushesWell (healthy : self.Healthy) : self.FlushesWell :=
  ⟨healthy.fine, fun _ => (healthy.record _).closesWell⟩

private theorem sendsWell (healthy : self.Healthy) (frame : Frame) : self.SendsWell frame :=
  fun _ _ => ((healthy.record _).record _).flushesWell

private theorem unfailed {half : WriteHalf} (healthy : self.Healthy) (call : Writer.Call) :
    Writer.Unfailed ⟨half, self⟩ call := by
  cases call with
  | pollReady => trivial
  | startSend frame => exact fun _ => healthy.fine
  | pollFlush => trivial
  | pollClose =>
    simp only [Writer.Unfailed, WriteHalf.ClosesWell]
    split
    · exact healthy.sendsWell _
    · exact healthy.sendsWell _
    · exact healthy.flushesWell
    · exact healthy.closesWell
    · trivial

end Framed.Healthy

/-- A sink without errors, and the Close frames it has so far. -/
structure Writer.Counted (half : WriteHalf) (stream : Framed) : Prop where
  healthy : stream.Healthy
  counts : CloseState.Counts stream.closes half.closeState

namespace WriteHalf

open Writer (Counted)

variable {self : WriteHalf} {stream : Framed}

/-- A Close frame behind none. -/
theorem startSend_one {frame : Frame} (healthy : stream.Healthy) (close : frame.opcode = .close)
    (none : stream.closes = []) : (stream.startSend frame).2.closes.length = 1 := by
  rw [Framed.closes] at none
  rw [Framed.closes, (healthy.startSend frame).2, List.filter_append, none]
  simp [close]

/-- Behind a Close frame nothing more is counted. -/
theorem Behind.counts {result : Reply × WriteHalf × Framed} (behind : Behind stream result)
    (one : stream.closes.length = 1) :
    CloseState.Counts result.2.2.closes result.2.1.closeState ∧ result.2.2.closes.length = 1 := by
  have same : result.2.2.closes.length = 1 := by rwa [Framed.closes, behind.handed]
  refine ⟨?_, same⟩
  rcases behind.stage with ⟨-, state | state⟩ | ⟨-, state⟩
  · rwa [state]
  · rwa [state]
  · rw [state]
    exact same.le

private theorem SendOutcome.counts {result : Reply × WriteHalf × Framed} {frame : Frame}
    (outcome : SendOutcome stream frame result) (close : frame.opcode = .close)
    (none : stream.closes = []) :
    CloseState.Counts result.2.2.closes result.2.1.closeState ∧
      (result.1 = .ready (.ok ()) → result.2.2.closes.length = 1) := by
  cases outcome with
  | waits answer state same =>
    refine ⟨?_, by simp [answer]⟩
    rw [state, Framed.closes, same]
    exact ⟨close, none⟩
  | refused error answer state same =>
    refine ⟨?_, by simp [answer]⟩
    have unchanged : result.2.2.closes = [] := by rwa [Framed.closes, same]
    simp [state, unchanged, CloseState.Counts]
  | sent final grown behind =>
    have one : final.closes.length = 1 := by
      rw [Framed.closes] at none
      rw [Framed.closes, grown, List.filter_append, none]
      simp [close]
    obtain ⟨counts, same⟩ := behind.counts one
    exact ⟨counts, fun _ => same⟩

/-- A call of a close that starts behind no Close frame sends one at most, and has sent
one once it succeeds. -/
theorem pollClose_counted (counted : Counted self stream)
    (fresh : self.closeState = none → NoClose stream.handed) :
    Counted (self.pollClose stream).2.1 (self.pollClose stream).2.2 ∧
      ((self.pollClose stream).1 = .ready (.ok ()) →
        (self.pollClose stream).2.2.closes.length = 1) := by
  obtain ⟨healthy, counts⟩ := counted
  have healthy' : (self.pollClose stream).2.2.Healthy := fun reply member =>
    healthy reply ((self.pollClose_sends stream).replies.subset member)
  cases self.pollClose_outcome stream with
  | sends frame state outcome =>
    have unsent : frame.opcode = .close ∧ stream.closes = [] := by
      rcases state with ⟨state, rfl⟩ | state
      · exact ⟨rfl, (fresh state).closes⟩
      · rwa [state] at counts
    obtain ⟨counts, one⟩ := outcome.counts unsent.1 unsent.2
    exact ⟨⟨healthy', counts⟩, one⟩
  | behind sent outcome =>
    obtain ⟨counts, one⟩ := outcome.counts (counts.one sent)
    exact ⟨⟨healthy', counts⟩, fun _ => one⟩

private theorem startSend_counted {frame : Frame} (counted : Counted self stream)
    (once : frame.opcode = .close → NoClose stream.handed) :
    Counted (self.startSend stream frame).2.1 (self.startSend stream frame).2.2 := by
  obtain ⟨healthy, counts⟩ := counted
  refine ⟨healthy.record _, ?_⟩
  change CloseState.Counts (stream.startSend frame).2.closes (self.onSend frame).closeState
  by_cases close : frame.opcode = .close
  · simp only [onSend, close, ↓reduceIte]
    exact startSend_one healthy close (once close).closes
  · simp only [onSend, close, ↓reduceIte]
    rw [Framed.closes, (healthy.startSend frame).2, List.filter_append]
    simpa [close, Framed.closes] using counts

end WriteHalf

theorem Writer.step_counted {self next : Writer} {call : Call} {reply : Reply}
    (once : self.Once call) (taken : step self call = some (reply, next))
    (counted : Counted self.half self.stream) :
    Counted next.half next.stream ∧
      (call = .pollClose → reply = .ready (.ok ()) → next.stream.closes.length = 1) := by
  obtain ⟨half, stream⟩ := self
  cases call with
  | pollReady =>
    simp only [step, Option.some.injEq, Prod.mk.injEq] at taken
    obtain ⟨-, rfl⟩ := taken
    refine ⟨?_, by simp⟩
    unfold WriteHalf.pollReady
    split
    · exact counted
    · refine ⟨counted.healthy.record _, ?_⟩
      simpa [Framed.closes] using counted.counts
  | startSend frame =>
    simp only [step, Option.some.injEq, Prod.mk.injEq] at taken
    obtain ⟨-, rfl⟩ := taken
    exact ⟨WriteHalf.startSend_counted counted once, by simp⟩
  | pollFlush =>
    simp only [step, Option.some.injEq, Prod.mk.injEq] at taken
    obtain ⟨-, rfl⟩ := taken
    refine ⟨⟨counted.healthy.record _, ?_⟩, by simp⟩
    simpa [WriteHalf.pollFlush, Framed.closes] using counted.counts
  | pollClose =>
    simp only [step, Option.some.injEq, Prod.mk.injEq] at taken
    obtain ⟨rfl, rfl⟩ := taken
    obtain ⟨kept, one⟩ := WriteHalf.pollClose_counted counted once
    exact ⟨kept, fun _ => one⟩

end Counting

section Runs

private theorem Writer.new_staged (incoming : List Arrival) (replies : List Reply) (clock : Nat) :
    (Writer.new incoming replies clock).Staged := trivial

/-- Without errors of the sink every call meets the condition. -/
theorem Writer.once_unfailed {start final : Writer} {trace : List (Call × Reply)}
    (run : Trace.Run step Once start trace final) (counted : Counted start.half start.stream) :
    Trace.Run step Unfailed start trace final := by
  induction run with
  | nil => exact .nil
  | cons once taken _ ih =>
    exact .cons (counted.healthy.unfailed _) taken (ih (step_counted once taken counted).1)

/-- In every run in which the sink fails none of these calls, a close that is
reported as finished was: a Close frame was accepted, then flushed, and the sink was
closed. Without errors of the sink that is the only Close frame, unless the caller
hands over another or starts a close behind one. -/
theorem reported_close (incoming : List Arrival) (replies : List Reply) (clock : Nat) :
    (∀ trace final, Trace.Run Writer.step Writer.Unfailed (.new incoming replies clock)
        (trace ++ [(.pollClose, .ready (.ok ()))]) final → Event.Graceful final.stream.log) ∧
    ((∀ reply ∈ replies, ∀ error, reply ≠ .ready (.error error)) →
      ∀ trace final, Trace.Run Writer.step Writer.Once (.new incoming replies clock) trace final →
        final.stream.closes.length ≤ 1 ∧
          ∀ earlier, trace = earlier ++ [(.pollClose, .ready (.ok ()))] →
            final.stream.closes.length = 1) := by
  constructor
  · intro trace final run
    obtain ⟨middle, front, last⟩ := run.split
    have staged : middle.Staged := front.keeps (motive := Writer.Staged)
      (fun unfailed taken kept => (Writer.step_staged unfailed taken kept).1)
      (Writer.new_staged incoming replies clock)
    cases last with
    | cons unfailed taken rest =>
      cases rest
      exact (Writer.step_staged unfailed taken staged).2 rfl rfl
  · intro healthy trace final run
    have initial : Writer.Counted WriteHalf.new (.new incoming replies clock) :=
      ⟨healthy, Nat.zero_le 1⟩
    have counted {trace : List (Writer.Call × Reply)} {state : Writer}
        (run : Trace.Run Writer.step Writer.Once (.new incoming replies clock) trace state) :
        Writer.Counted state.half state.stream :=
      run.keeps (motive := fun state => Writer.Counted state.half state.stream)
        (fun once taken kept => (Writer.step_counted once taken kept).1) initial
    refine ⟨?_, ?_⟩
    · have counts := (counted run).counts
      unfold CloseState.Counts at counts
      split at counts
      · exact counts
      · simp [counts.2]
      · exact counts.le
    · rintro earlier rfl
      obtain ⟨middle, front, last⟩ := run.split
      cases last with
      | cons once taken rest =>
        cases rest
        exact (Writer.step_counted once taken (counted front)).2 rfl rfl

/-- The calls of the close are pending twice before it is done. -/
theorem reported_close_twice_pending :
    ∃ final, Trace.Run Writer.step Writer.Once
      (.new [] [.pending, .ready (.ok ()), .ready (.ok ()), .pending, .ready (.ok ()),
        .ready (.ok ())] 0)
      [(.pollClose, .pending), (.pollClose, .pending), (.pollClose, .ready (.ok ()))] final ∧
      Event.Graceful final.stream.log ∧ final.stream.closes.length = 1 := by
  have healthy : ∀ reply ∈ ([.pending, .ready (.ok ()), .ready (.ok ()), .pending,
      .ready (.ok ()), .ready (.ok ())] : List Reply), ∀ error, reply ≠ .ready (.error error) := by
    simp
  obtain ⟨final, run⟩ : ∃ final, Trace.Run Writer.step Writer.Once (.new [] [.pending,
      .ready (.ok ()), .ready (.ok ()), .pending, .ready (.ok ()), .ready (.ok ())] 0)
      [(.pollClose, .pending), (.pollClose, .pending), (.pollClose, .ready (.ok ()))] final :=
    ⟨_, .cons (fun _ => nofun) rfl (.cons nofun rfl (.cons nofun rfl .nil))⟩
  refine ⟨final, run, ?_, ?_⟩
  · exact (reported_close [] _ 0).1 [(.pollClose, .pending), (.pollClose, .pending)] final
      (Writer.once_unfailed run ⟨healthy, Nat.zero_le 1⟩)
  · exact ((reported_close [] _ 0).2 healthy _ final run).2
      [(.pollClose, .pending), (.pollClose, .pending)] rfl

/-- The flush of the Close frame fails, and the close is reported as finished. -/
theorem failed_flush_reported :
    ∃ final, Trace.Run Writer.step (fun _ _ => True)
      (.new [] [.ready (.ok ()), .ready (.ok ()), .ready (.error (.ioError "broken pipe")),
        .ready (.ok ())] 0)
      [(.pollClose, .ready (.ok ()))] final ∧ ¬ Event.Graceful final.stream.log := by
  refine ⟨_, .cons trivial rfl .nil, ?_⟩
  rintro ⟨frame, close, sublist⟩
  have member := sublist.subset (show Event.pollFlush (.ready (.ok ())) ∈ _ by simp)
  simp [WriteHalf.new, Framed.new, WriteHalf.pollSending, WriteHalf.pollFlushing,
    WriteHalf.pollClosing, WriteHalf.pollDone, Framed.pollReady, Framed.pollFlush, Framed.pollClose,
    Framed.startSend, Framed.record, Framed.nextReply] at member

/-- A close behind a finished one starts over. -/
example :
    (Trace.exec Writer.step (.new [] (List.replicate 8 (.ready (.ok ()))) 0)
      [.pollClose, .pollClose]).map (fun (_, final) => final.stream.closes.length) = some 2 := by
  decide

end Runs

end Yawc
