import Yawc.Native.Outcomes
import Yawc.Library.Trace

/-! Close frames on the wire. They come from the user, from `poll_close` and
from the replies owed to the peer, and a connection keeps to one of them only as
long as these do not get in each other's way. -/

namespace Yawc

/-- Whether a read has to be answered: it comes to a Ping, a Close, or anything that is
refused. -/
def Streaming.answered (self : Streaming) (maxReadBuffer : Nat) : Bool :=
  match self.met with
  | .pending => false
  | .ready (.error error) => error ≠ .connectionClosed
  | .ready (.ok frame) =>
    frame.opcode = .ping || frame.opcode = .close || self.refuses frame maxReadBuffer

/-- A read that comes before any Close, or that needs no answer. -/
def Streaming.MayRead (self : Streaming) (maxReadBuffer : Nat) : Prop :=
  NoClose self.handed ∨ ¬ self.answered maxReadBuffer

/-- What keeps the Close frames apart. A Close among the owed frames is the last
of them and was queued by a reader that has stopped; once a Close has gone out,
nothing is owed any more. -/
structure Disciplined (connection : Streaming) : Prop where
  closeLast : CloseLast connection.handed
  settled : NoClose connection.handed ∨ connection.obligatedSends = []
  owedLast : CloseLast connection.obligatedSends
  owedClosed : ¬ NoClose connection.obligatedSends → connection.readHalf.isClosed

namespace Disciplined

/-- Polls of the transport that send nothing. -/
theorem polled {s : Streaming} (disciplined : Disciplined s) {stream : Framed}
    (same : stream.handed = s.stream.handed) : Disciplined { s with stream } where
  closeLast := by simpa [Streaming.handed, same] using disciplined.closeLast
  settled := by simpa [Streaming.handed, same] using disciplined.settled
  owedLast := disciplined.owedLast
  owedClosed := disciplined.owedClosed

/-- A frame goes out while no Close has, and a Close only when nothing is owed. -/
theorem writeStartSend {s : Streaming} (disciplined : Disciplined s) (frame : Frame)
    (none : NoClose s.handed) (alone : frame.opcode = .close → s.obligatedSends = []) :
    Disciplined (s.writeStartSend frame).2 := by
  have handed : (s.writeStartSend frame).2.handed = _ := s.stream.handed_startSend frame
  constructor
  · rw [handed]
    split
    · exact .snoc none frame
    · rw [List.append_nil]
      exact disciplined.closeLast
  · by_cases closing : frame.opcode = .close
    · exact .inr (alone closing)
    · rw [handed]
      refine .inl fun other member => ?_
      rcases List.mem_append.mp member with before | last
      · exact none other before
      · split at last
        · rwa [List.mem_singleton.mp last]
        · simp at last
  · exact disciplined.owedLast
  · exact disciplined.owedClosed

theorem pollWriteReady {s : Streaming} (disciplined : Disciplined s) :
    Disciplined s.pollWriteReady.2 := by
  simp only [Streaming.pollWriteReady, WriteHalf.pollReady]
  split
  · exact disciplined
  · exact disciplined.polled s.stream.handed_pollReady

theorem pollWriteFlush {s : Streaming} (disciplined : Disciplined s) :
    Disciplined s.pollWriteFlush.2 :=
  disciplined.polled s.stream.handed_pollFlush

/-- Each owed frame may go out: a Close among them is the last. -/
theorem sendObligated {s : Streaming} (disciplined : Disciplined s) {next : Frame}
    {rest : List Frame} (owed : s.obligatedSends = next :: rest) :
    Disciplined (s.sendObligated next rest).2 := by
  unfold Streaming.sendObligated
  apply Poll.andThen_keeps _ _ disciplined.pollWriteReady
  intro _ ready polled kept
  obtain ⟨-, rfl⟩ := Streaming.pollWriteReady_ok polled
  have none := kept.settled.resolve_right (by simp [owed])
  obtain ⟨alone, owedLast⟩ : CloseLast (next :: rest) := owed ▸ disciplined.owedLast
  have shorter : Disciplined { s with stream := s.stream.pollReady.2, obligatedSends := rest } :=
    { kept with
      settled := .inl none
      owedLast
      owedClosed := by
        intro close
        apply disciplined.owedClosed
        rw [owed]
        exact fun none => close fun frame member => none frame (by simp [member]) }
  have sent := shorter.writeStartSend next none alone
  split
  · rename_i result
    rw [result] at sent
    exact sent
  · rename_i result
    rw [result] at sent
    exact { sent with }

private theorem sendAllObligated (owed : List Frame) {s : Streaming} (disciplined : Disciplined s)
    (same : s.obligatedSends = owed) : Disciplined (Streaming.sendAllObligated owed s).2 := by
  induction owed generalizing s with
  | nil => exact disciplined
  | cons next rest ih =>
    apply Poll.andThen_keeps _ _ (disciplined.sendObligated same)
    intro _ middle sent kept
    exact ih kept (Streaming.sendObligated_ok sent)

private theorem flushObligated {s : Streaming} (disciplined : Disciplined s) :
    Disciplined s.flushObligated.2 := by
  apply Poll.andThen_keeps _ _ (sendAllObligated _ disciplined rfl)
  intro _ middle _ kept
  split
  · apply Poll.andThen_keeps _ _ kept.pollWriteFlush
    intro _ final _ flushed
    exact { flushed with }
  · exact kept

theorem pollFlushObligated {s : Streaming} (disciplined : Disciplined s) :
    Disciplined s.pollFlushObligated.2 := by
  unfold Streaming.pollFlushObligated
  split
  · exact disciplined
  · exact Poll.again_keeps _ (fun _ kept => kept.flushObligated) s disciplined

theorem pollReady {s : Streaming} (disciplined : Disciplined s) : Disciplined s.pollReady.2 := by
  unfold Streaming.pollReady
  split
  · exact disciplined.pollWriteReady
  · apply Poll.andThen_keeps _ _ disciplined.pollFlushObligated
    intro _ middle _ kept
    exact kept.pollWriteReady

/-- A user's frame, compressed or not. -/
theorem startSend {s : Streaming} (disciplined : Disciplined s) (frame : Frame)
    (none : NoClose s.handed) (alone : frame.opcode = .close → s.obligatedSends = []) :
    Disciplined (s.startSend frame).2 := by
  rcases s.startSend_cases frame with ⟨error, deflate, failed⟩ | ⟨item, deflate, prepared, sent⟩
  · rw [failed]
    exact { disciplined with }
  · have kept : Disciplined { s with deflate } := { disciplined with }
    have opcode := (Streaming.prepare_frame prepared).1
    rw [sent]
    exact kept.writeStartSend item none (by rwa [opcode])

/-- The transport and the writer after a call that leaves what is owed alone. -/
theorem written {s : Streaming} (disciplined : Disciplined s) {writeHalf : WriteHalf}
    {stream : Framed} (closeLast : CloseLast stream.handed)
    (settled : NoClose stream.handed ∨ s.obligatedSends = []) :
    Disciplined { s with writeHalf, stream } where
  closeLast := closeLast
  settled := settled
  owedLast := disciplined.owedLast
  owedClosed := disciplined.owedClosed

/-- A graceful close. It sends a Close unless one has been taken. -/
theorem pollClose {s : Streaming} (disciplined : Disciplined s)
    (alone : ¬ s.writeHalf.closeSent → NoClose s.handed ∧ s.obligatedSends = []) :
    Disciplined s.pollClose.2 := by
  have outcome := s.writeHalf.pollClose_outcome s.stream
  unfold Streaming.pollClose
  generalize s.writeHalf.pollClose s.stream = result at outcome ⊢
  obtain ⟨reply, writeHalf, stream⟩ := result
  have unchanged (same : stream.handed = s.stream.handed) :
      Disciplined { s with writeHalf, stream } := by
    apply disciplined.written
    · rw [same]
      exact disciplined.closeLast
    · rw [same]
      exact disciplined.settled
  cases outcome with
  | sends frame state outcome =>
    have unsent : ¬ s.writeHalf.closeSent := by
      rcases state with ⟨state, -⟩ | state
      · simp [WriteHalf.closeSent, state]
      · simp [WriteHalf.closeSent, state]
    obtain ⟨none, empty⟩ := alone unsent
    rcases outcome.handed with same | grown
    · exact unchanged same
    · apply disciplined.written
      · rw [grown]
        exact .snoc none frame
      · exact .inr empty
  | behind _ outcome => exact unchanged outcome.handed

private theorem oblige {s : Streaming} (disciplined : Disciplined s) {frame : Frame}
    (none : NoClose s.obligatedSends) (other : frame.opcode ≠ .close) (unsent : NoClose s.handed) :
    Disciplined (s.oblige frame) where
  closeLast := disciplined.closeLast
  settled := .inl unsent
  owedLast := .snoc none frame
  owedClosed := by
    refine fun close => absurd (fun owed member => ?_) close
    rcases List.mem_append.mp member with before | last
    · exact none owed before
    · rwa [List.mem_singleton.mp last]

theorem emitClose {s : Streaming} (disciplined : Disciplined s) {frame : Frame}
    (none : NoClose s.obligatedSends) (unsent : NoClose s.handed) :
    Disciplined (s.emitClose frame) where
  closeLast := disciplined.closeLast
  settled := .inl unsent
  owedLast := .snoc none frame
  owedClosed := fun _ => rfl

/-- An open reader owes no Close. -/
theorem noOwedClose {s : Streaming} (disciplined : Disciplined s)
    (reading : s.readHalf.isClosed = false) : NoClose s.obligatedSends :=
  Classical.not_not.mp fun close => by simpa [reading] using disciplined.owedClosed close

/-- Polling the reader sends nothing and owes nothing. -/
theorem read {s after : Streaming} {polled : Poll (Result Frame)} (disciplined : Disciplined s)
    (outcome : Streaming.ReadOutcome s polled after) : Disciplined after := by
  cases outcome with
  | closed _ => exact disciplined
  | pending _ takes => exact disciplined.polled takes.handed
  | ended _ takes => exact { disciplined.polled takes.handed with owedClosed := fun _ => rfl }
  | failed _ takes _ => exact disciplined.polled takes.handed
  | received reading takes =>
    exact { disciplined.polled takes.handed with
      owedClosed := fun close => absurd (disciplined.noOwedClose reading) close }

/-- An accepted frame is answered if it is a Ping or a Close. -/
theorem accepted {s after : Streaming} {frame received : Frame} {maxReadBuffer : Nat}
    (disciplined : Disciplined s) (none : NoClose s.obligatedSends)
    (unsent : frame.opcode = .ping ∨ frame.opcode = .close → NoClose s.handed)
    (taken : s.onFrame frame maxReadBuffer = (.ok received, after)) : Disciplined after := by
  have outcome := s.onFrame_outcome frame maxReadBuffer
  rw [taken] at outcome
  cases outcome with
  | ping opcode => exact disciplined.oblige none (by simp [Frame.pong, Frame.new]) (unsent (.inl opcode))
  | pong _ => exact disciplined
  | close opcode _ => exact disciplined.emitClose none (unsent (.inr opcode))
  | data _ _ => exact { disciplined with }

/-- A refused frame is answered by a Close. -/
theorem refused {s after : Streaming} {frame : Frame} {error : WebSocketError} {maxReadBuffer : Nat}
    (disciplined : Disciplined s) (none : NoClose s.obligatedSends)
    (unsent : NoClose s.handed)
    (taken : s.onFrame frame maxReadBuffer = (.error error, after)) :
    Disciplined (after.emitClose (Streaming.closeFor error)) := by
  have outcome := s.onFrame_outcome frame maxReadBuffer
  rw [taken] at outcome
  cases outcome with
  | badClose _ _ => exact disciplined.emitClose none unsent
  | @data _ inflate _ _ =>
    have kept : Disciplined { s with inflate } := { disciplined with }
    exact kept.emitClose none unsent

theorem pollNextFrameWithLimit {s : Streaming} {maxReadBuffer : Nat} (disciplined : Disciplined s)
    (may : s.MayRead maxReadBuffer) : Disciplined (s.pollNextFrameWithLimit maxReadBuffer).2 := by
  have reader := s.pollReader_outcome
  have unsent (answered : s.answered maxReadBuffer) : NoClose s.handed :=
    may.resolve_right (not_not_intro answered)
  unfold Streaming.answered at unsent
  rw [← s.pollReader_met] at unsent
  unfold Streaming.pollNextFrameWithLimit
  generalize s.pollReader = result at reader unsent
  obtain ⟨answer, middle⟩ := result
  dsimp only at reader unsent ⊢
  rw [← reader.handed] at unsent
  have kept := disciplined.read reader
  have outcome := middle.onPolled_outcome answer maxReadBuffer
  generalize middle.onPolled answer maxReadBuffer = result at outcome ⊢
  cases outcome with
  | silent quiet =>
    apply Poll.andThen_keeps _ _ kept.pollFlushObligated
    exact fun _ _ _ flushed => flushed
  | failed cause =>
    cases reader with
    | closed _ => exact absurd rfl cause
    | ended _ _ => exact absurd rfl cause
    | failed reading _ _ =>
      exact kept.emitClose (disciplined.noOwedClose reading) (unsent (by simpa using cause))
  | @refused frame error after taken cause =>
    have refuses : s.refuses frame maxReadBuffer = true := by
      rw [← reader.refuses]
      have judged := middle.onFrame_isOk frame maxReadBuffer
      simpa [taken, Except.isOk, Except.toBool] using judged
    cases reader with
    | received reading _ =>
      exact kept.refused (disciplined.noOwedClose reading) (unsent (by simp [refuses])) taken
  | accepted taken =>
    cases reader with
    | received reading _ =>
      refine kept.accepted (disciplined.noOwedClose reading) (fun opcode => unsent ?_) taken
      rcases opcode with ping | close
      · simp [ping]
      · simp [close]

end Disciplined

/-- What a user has to keep to: no frame behind a Close, no Close of one's own while
something is owed, no second close behind one that has come to its end, and behind a
Close no read that has to be answered. -/
def Streaming.Careful (self : Streaming) : Call → Prop
  | .pollNextFrame => self.MayRead self.maxPayloadRead
  | .pollReady | .pollFlush => True
  | .startSend frame =>
    NoClose self.handed ∧ (frame.opcode = .close → self.obligatedSends = [])
  | .pollClose => ¬ self.writeHalf.closeSent → NoClose self.handed ∧ self.obligatedSends = []

private theorem Disciplined.step {s : Streaming} {call : Call} (careful : s.Careful call)
    (disciplined : Disciplined s) : Disciplined (s.step call).2 := by
  cases call with
  | pollNextFrame => exact disciplined.pollNextFrameWithLimit careful
  | pollReady => exact disciplined.pollReady
  | startSend frame => exact disciplined.startSend frame careful.1 careful.2
  | pollFlush => exact disciplined.pollWriteFlush
  | pollClose => exact disciplined.pollClose careful

namespace WebSocket

/-- Every round of the read loop may read. -/
def MayRead : Nat → WebSocket → Prop
  | 0, _ => True
  | fuel + 1, self =>
    self.streaming.MayRead self.fragmentLayer.remainingReadCapacity ∧
      match self.pollStreaming with
      | (.ready (.ok frame), later) =>
        match later.onFrame frame with
        | (.ok none, later) => later.MayRead fuel
        | _ => True
      | _ => True

/-- The waiting fragments may go out: no Close has gone out or is owed, and a Close among
them is the last. -/
def MayFlush (self : WebSocket) : Prop :=
  self.fragmentLayer.outgoingFragments = [] ∨
    NoClose self.handed ∧ NoClose self.streaming.obligatedSends ∧
      CloseLast self.fragmentLayer.outgoingFragments

/-- The same for messages, where fragments wait to be flushed. -/
def Careful (self : WebSocket) : Call → Prop
  | .pollNextFrame => self.MayRead (self.streaming.stream.incoming.length + 1)
  | .pollReady | .pollFlush => self.MayFlush
  | .startSend frame => self.fragmentLayer.fragmentSize = none → self.streaming.Careful (.startSend frame)
  | .pollClose => self.streaming.Careful .pollClose

private theorem readLoop_disciplined (fuel : Nat) {self : WebSocket} (may : self.MayRead fuel)
    (disciplined : Disciplined self.streaming) : Disciplined (self.readLoop fuel).2.streaming := by
  induction fuel generalizing self with
  | zero => exact disciplined
  | succ fuel ih =>
    obtain ⟨now, later⟩ := may
    have kept : Disciplined self.pollStreaming.2.streaming :=
      disciplined.pollNextFrameWithLimit now
    apply Poll.andThen_keeps (motive := fun now : WebSocket => Disciplined now.streaming) _ _ kept
    intro frame middle polled reading
    simp only [polled] at later
    rw [← middle.onFrame_streaming frame] at reading
    match taken : middle.onFrame frame with
    | (.error _, after) => simpa [taken] using reading
    | (.ok (some _), after) => simpa [taken] using reading
    | (.ok none, after) =>
      simp only [taken] at later reading
      exact ih later reading

/-- A frame other than a Close hands on no Close, and leaves what is owed alone. -/
theorem startSend_other {s : Streaming} {frame : Frame} (other : frame.opcode ≠ .close)
    (none : NoClose s.handed) :
    NoClose (s.startSend frame).2.handed ∧
      (s.startSend frame).2.obligatedSends = s.obligatedSends := by
  rcases s.startSend_cases frame with ⟨error, deflate, failed⟩ | ⟨item, deflate, prepared, sent⟩
  · rw [failed]
    exact ⟨none, rfl⟩
  · have opcode := (Streaming.prepare_frame prepared).1
    have grown : ({ s with deflate }.writeStartSend item).2.handed = _ :=
      s.stream.handed_startSend item
    rw [sent]
    refine ⟨?_, rfl⟩
    rw [grown]
    intro each member
    rcases List.mem_append.mp member with before | last
    · exact none each before
    · split at last
      · rwa [List.mem_singleton.mp last, opcode]
      · simp at last

/-- Owed frames without a Close go out first. -/
theorem pollStreamingReady_open {self after : WebSocket} (unsent : NoClose self.handed)
    (none : NoClose self.streaming.obligatedSends)
    (ready : self.pollStreamingReady = (.ready (.ok ()), after)) :
    NoClose after.handed ∧ after.streaming.obligatedSends = [] := by
  simp only [pollStreamingReady, Prod.mk.injEq] at ready
  obtain ⟨answer, rfl⟩ := ready
  obtain ⟨popped, effect⟩ := self.streaming.pollReady_effect.effect
  obtain ⟨taken, within, grown⟩ := effect.sent
  refine ⟨?_, Streaming.pollReady_ok (Prod.ext answer rfl)⟩
  intro frame member
  simp only [WebSocket.handed, grown] at member
  rcases List.mem_append.mp member with before | now
  · exact unsent frame before
  · exact none frame (by simp [effect.owed, within.subset now])

/-- Each fragment may go out: what is owed goes first, and is no Close. -/
theorem sendFragments_disciplined (fragments : List Frame) {self : WebSocket}
    (disciplined : Disciplined self.streaming) (unsent : NoClose self.handed)
    (none : NoClose self.streaming.obligatedSends) (last : CloseLast fragments) :
    Disciplined (sendFragments fragments self).2.streaming := by
  induction fragments generalizing self with
  | nil => exact disciplined
  | cons fragment rest ih =>
    have readyKept : Disciplined self.pollStreamingReady.2.streaming := disciplined.pollReady
    apply Poll.andThen_keeps (motive := fun now : WebSocket => Disciplined now.streaming)
    · apply Poll.andThen_keeps (motive := fun now : WebSocket => Disciplined now.streaming) _ _
        readyKept
      intro _ after ready kept
      obtain ⟨open', empty⟩ := pollStreamingReady_open unsent none ready
      exact kept.startSend fragment open' fun _ => empty
    · intro _ after sent kept
      obtain ⟨_, ready, polled, handedOver⟩ := Poll.andThen_eq_ok sent
      obtain ⟨open', empty⟩ := pollStreamingReady_open unsent none polled
      simp only [Prod.mk.injEq] at handedOver
      obtain ⟨-, rfl⟩ := handedOver
      by_cases close : fragment.opcode = .close
      · rw [last.1 close]
        exact kept
      · obtain ⟨open', owed⟩ := startSend_other (s := ready.streaming) close open'
        refine ih kept open' ?_ last.2
        rw [owed, empty]
        nofun

private theorem pollFlushFragments_disciplined {self : WebSocket} (may : self.MayFlush)
    (disciplined : Disciplined self.streaming) :
    Disciplined self.pollFlushFragments.2.streaming := by
  unfold pollFlushFragments
  rcases may with empty | ⟨unsent, none, last⟩
  · rw [empty]
    exact disciplined
  · exact sendFragments_disciplined _ disciplined unsent none last

private theorem step_disciplined {self next : WebSocket} {call : Call} {answer : Answer}
    (careful : self.Careful call) (taken : self.step call = some (answer, next))
    (disciplined : Disciplined self.streaming) : Disciplined next.streaming := by
  cases call with
  | pollNextFrame =>
    simp only [step, Option.some.injEq, Prod.mk.injEq] at taken
    exact taken.2 ▸ readLoop_disciplined _ careful disciplined
  | pollReady =>
    simp only [step, Option.some.injEq, Prod.mk.injEq] at taken
    rw [← taken.2]
    apply Poll.andThen_keeps (motive := fun now : WebSocket => Disciplined now.streaming) _ _
      (pollFlushFragments_disciplined careful disciplined)
    exact fun _ _ _ kept => kept.pollReady
  | pollFlush =>
    simp only [step, Option.some.injEq, Prod.mk.injEq] at taken
    rw [← taken.2]
    apply Poll.andThen_keeps (motive := fun now : WebSocket => Disciplined now.streaming) _ _
      (pollFlushFragments_disciplined careful disciplined)
    exact fun _ _ _ kept => kept.pollWriteFlush
  | pollClose =>
    simp only [step, Option.some.injEq, Prod.mk.injEq] at taken
    exact taken.2 ▸ disciplined.pollClose careful
  | startSend frame =>
    simp only [step, startSend] at taken
    split at taken
    · rename_i whole
      simp only [Option.map_some, Option.some.injEq, Prod.mk.injEq] at taken
      obtain ⟨none, alone⟩ := careful (by simpa using whole)
      exact taken.2 ▸ disciplined.startSend frame none alone
    · simp only [Option.map_map, Option.map_eq_some_iff, Function.comp] at taken
      obtain ⟨layer, -, same⟩ := taken
      simp only [Prod.mk.injEq] at same
      exact same.2 ▸ disciplined

end WebSocket

private theorem Disciplined.new (flate : Flate) (incoming : List Arrival) (replies : List Reply)
    (clock : Nat) (opts : Negotiation) :
    Disciplined (.new flate (.new incoming replies clock) opts) where
  closeLast := trivial
  settled := .inl nofun
  owedLast := trivial
  owedClosed := fun close => absurd nofun close

/-- A user's Close is answered by the peer's, and that one is answered again. -/
theorem close_answered_twice :
    ∃ trace final,
      Trace.Run WebSocket.step (fun _ _ => True)
        (.new .stored
          (.new [.at 0 (.close .normal [])] [.ready (.ok ()), .ready (.ok ()), .ready (.ok ())] 0)
          .plain)
        trace final ∧
      final.handed = [.close .normal [], .close .normal []] ∧ ¬ CloseLast final.handed :=
  ⟨_, _, .of_exec [.startSend (.close .normal []), .pollNextFrame, .pollNextFrame] rfl,
    by decide, by decide⟩

/-- In every run of careful calls at most one Close is handed on, as the last
frame. -/
theorem close_discipline (flate : Flate) (incoming : List Arrival) (replies : List Reply)
    (clock : Nat) (opts : Negotiation) :
    (∀ trace final,
      Trace.Run (fun (connection : Streaming) call => some (connection.step call)) Streaming.Careful
        (.new flate (.new incoming replies clock) opts) trace final → CloseLast final.handed) ∧
    (∀ trace final,
      Trace.Run WebSocket.step WebSocket.Careful
        (.new flate (.new incoming replies clock) opts) trace final → CloseLast final.handed) := by
  have fresh := Disciplined.new flate incoming replies clock opts
  constructor
  · intro trace final run
    refine (run.keeps (motive := Disciplined) ?_ fresh).closeLast
    intro state call answer next careful taken disciplined
    simp only [Option.some.injEq] at taken
    rw [← Prod.eta (state.step call)] at taken
    exact (Prod.mk.inj taken).2 ▸ disciplined.step careful
  · intro trace final run
    refine (run.keeps (motive := fun state => Disciplined state.streaming) ?_ fresh).closeLast
    exact fun careful taken disciplined => WebSocket.step_disciplined careful taken disciplined

/-- A Ping is answered before the user's message goes out and the connection is
closed. -/
theorem close_discipline_ping :
    ∃ final,
      Trace.Run WebSocket.step WebSocket.Careful
        (.new .stored (.new [.at 0 (.ping [7])] (List.replicate 9 (.ready (.ok ()))) 0) .plain)
        [(.pollNextFrame, .read (.ready (.ok (.ping [7])))),
          (.pollReady, .reply (.ready (.ok ()))),
          (.startSend (.text [104, 105]), .sent (.ok ())),
          (.pollClose, .reply (.ready (.ok ())))] final ∧
      final.handed = [.pong [7], .text [104, 105], .close .normal []] ∧
      CloseLast final.handed := by
  have run : ∃ final,
      Trace.Run WebSocket.step WebSocket.Careful
        (.new .stored (.new [.at 0 (.ping [7])] (List.replicate 9 (.ready (.ok ()))) 0) .plain)
        [(.pollNextFrame, .read (.ready (.ok (.ping [7])))),
          (.pollReady, .reply (.ready (.ok ()))),
          (.startSend (.text [104, 105]), .sent (.ok ())),
          (.pollClose, .reply (.ready (.ok ())))] final ∧
      final.handed = [.pong [7], .text [104, 105], .close .normal []] :=
    ⟨_, .cons ⟨.inl nofun, trivial⟩ rfl <| .cons (.inl rfl) rfl <|
      .cons (fun _ => ⟨by decide, by decide⟩) rfl <| .cons (fun _ => ⟨by decide, rfl⟩) rfl .nil,
      by decide⟩
  obtain ⟨final, run, handed⟩ := run
  exact ⟨final, run, handed, (close_discipline _ _ _ _ _).2 _ _ run⟩

end Yawc
