import Yawc.Native.Sending

/-! What a graceful close leaves behind. Closing goes past the fragments that
wait, so they have to be flushed first. -/

namespace Yawc

/-- Sending keeps the kind of each frame. -/
theorem Sender.sendAll_opcode {self final : Sender} {items frames : List Frame}
    (sent : self.sendAll items = some (frames, final)) :
    frames.map (·.opcode) = items.map (·.opcode) := by
  induction items generalizing self frames with
  | nil =>
    simp only [sendAll, Option.some.injEq, Prod.mk.injEq] at sent
    rw [← sent.1]
  | cons item rest ih =>
    simp only [sendAll] at sent
    split at sent
    · simp at sent
    · rename_i frame next first
      simp only [Option.map_eq_some_iff, Prod.mk.injEq] at sent
      obtain ⟨⟨later, _⟩, others, rfl, rfl⟩ := sent
      simp [ih others, (Streaming.send_frame first).1]

private theorem noClose_iff {frames : List Frame} : NoClose frames ↔ .close ∉ frames.map
    (·.opcode) := by
  simp [NoClose]

theorem Sender.sendAll_noClose {self final : Sender} {items frames : List Frame}
    (sent : self.sendAll items = some (frames, final)) : NoClose frames ↔ NoClose items := by
  rw [noClose_iff, noClose_iff, sendAll_opcode sent]

/-- The data is handed on before any Close: nothing but the Close is missing, or
it has gone out behind the data. -/
def Promised (start : Sender) (size : Option Nat) (data : List Frame) (connection : WebSocket) :
    Prop :=
  connection.streaming.queued = [] ∧
    ((∃ more, Conserved start size (data ++ more) connection ∧ NoClose connection.handed) ∨
      ∃ sent sender later, start.sendAll data = some (sent, sender) ∧
        connection.handed = sent ++ later ∧ ¬ NoClose later)

namespace Promised

variable {start : Sender} {size : Option Nat} {data more : List Frame} {ws next : WebSocket}

/-- A Close among what was given comes behind the data. -/
theorem of_conserved (none : NoClose data) (silent : ws.streaming.queued = [])
    (conserved : Conserved start size (data ++ more) ws) : Promised start size data ws := by
  refine ⟨silent, ?_⟩
  by_cases unsent : NoClose ws.handed
  · exact .inl ⟨more, conserved, unsent⟩
  · obtain ⟨done, sent, replied, progress, split, -⟩ := conserved
    obtain ⟨rfl, -⟩ := List.append_eq_nil_iff.mp (progress.owed.symm.trans silent)
    have handed : ws.handed = sent := progress.handed.eq_right
    have closed : ¬ NoClose done := by
      rwa [handed, Sender.sendAll_noClose progress.prepared] at unsent
    rcases List.append_eq_append_iff.mp split with ⟨extra, rfl, -⟩ | ⟨rest, rfl, -⟩
    · obtain ⟨first, middle, second, front, back, rfl⟩ := Sender.sendAll_split progress.prepared
      refine .inr ⟨first, middle, second, front, handed, ?_⟩
      rw [Sender.sendAll_noClose back]
      refine fun other => closed fun frame member => ?_
      rcases List.mem_append.mp member with early | late
      · exact none frame early
      · exact other frame late
    · exact absurd (fun frame member => none frame (by simp [member])) closed

/-- Once a Close has gone out, nothing changes what lies before it. -/
theorem closed_grows {before after : List Frame} (grows : before <+: after)
    {sent later : List Frame} (handed : before = sent ++ later) (close : ¬ NoClose later) :
    ∃ later, after = sent ++ later ∧ ¬ NoClose later := by
  obtain ⟨extra, rfl⟩ := grows
  refine ⟨later ++ extra, by rw [handed, List.append_assoc], fun none => close ?_⟩
  exact fun frame member => none frame (by simp [member])

/-- Calls that do not close. -/
theorem step (promised : Promised start size data ws) (none : NoClose data) {call : Call}
    {answer : Answer} (taken : ws.step call = some (answer, next)) (writing : call ≠ .pollNextFrame)
    (opened : call ≠ .pollClose) (fine : ¬ answer.failed) : Promised start size data next := by
  obtain ⟨silent, waiting | ⟨sent, sender, later, prepared, handed, close⟩⟩ := promised
  · obtain ⟨more, conserved, -⟩ := waiting
    have same := (WebSocket.step_writes writing taken).reader
    have kept := conserved.step taken opened (.inr fine)
    rw [List.append_assoc] at kept
    exact of_conserved none (same.queued.trans silent) kept
  · have same := (WebSocket.step_writes writing taken).reader
    obtain ⟨later, handed, close⟩ := closed_grows same.stream.handed handed close
    exact ⟨same.queued.trans silent, .inr ⟨sent, sender, later, prepared, handed, close⟩⟩

end Promised

/-- Only the sink is used, and a close that may send its Close finds no fragment
waiting. -/
def WebSocket.Drained (self : WebSocket) : Call → Prop
  | .pollNextFrame => False
  | .pollClose =>
    self.fragmentLayer.outgoingFragments = [] ∨ self.streaming.writeHalf.closeSent ∨
      self.streaming.stream.nextReply = .pending
  | _ => True

@[simp] theorem Framed.handed_waits (stream : Framed) (reply : Reply) :
    (stream.record (.pollReady reply)).handed = stream.handed := by
  simp [handed, record, accepted]

namespace WriteHalf

private theorem pollSending_waits {self : WriteHalf} {stream : Framed} (frame : Frame)
    (waiting : stream.nextReply = .pending) :
    self.pollSending stream frame =
      (.pending, { self with closeState := some (.sending frame) },
        stream.record (.pollReady .pending)) := by
  simp [pollSending, Framed.pollReady, waiting]

/-- A healthy sink that is ready takes the Close. -/
theorem pollSending_handed (self : WriteHalf) {stream : Framed} (frame : Frame)
    (healthy : stream.Healthy) (ready : stream.nextReply ≠ .pending) :
    (self.pollSending stream frame).2.2.handed = stream.handed ++ [frame] := by
  have same := stream.handed_pollReady
  unfold pollSending
  match polled : stream.pollReady with
  | (.pending, after) => exact absurd (Prod.mk.inj polled).1 ready
  | (.ready _, after) =>
    have fine : after.Healthy := (Prod.mk.inj polled).2 ▸ healthy.record _
    obtain ⟨taken, handed⟩ := fine.startSend frame
    rw [polled] at same
    match sent : after.startSend frame with
    | (.error _, final) => simp [sent] at taken
    | (.ok (), final) =>
      rw [sent] at handed
      simp only [sent]
      rw [(self.pollFlushing_behind final).handed, handed, same]

/-- A close that has not sent its Close is about to. -/
theorem pollClose_unsent {self : WriteHalf} (unsent : ¬ self.closeSent)
    (sending : ∀ frame, self.closeState = some (.sending frame) → frame.opcode = .close)
    (stream : Framed) :
    ∃ frame, frame.opcode = .close ∧ self.pollClose stream = self.pollSending stream frame := by
  unfold pollClose
  cases state : self.closeState with
  | none => exact ⟨_, rfl, rfl⟩
  | some stage =>
    cases stage with
    | sending frame => exact ⟨frame, sending frame state, rfl⟩
    | flushing => simp [closeSent, state] at unsent
    | closing => simp [closeSent, state] at unsent
    | done => simp [closeSent, state] at unsent

/-- A close that succeeds is behind a Close. -/
theorem pollClose_closed {self : WriteHalf} {stream : Framed}
    (closed : (self.pollClose stream).1 = .ready (.ok ()))
    (sending : ∀ frame, self.closeState = some (.sending frame) → frame.opcode = .close)
    (marked : self.closeSent → ¬ NoClose stream.handed) :
    ¬ NoClose (self.pollClose stream).2.2.handed := by
  cases self.pollClose_outcome stream with
  | sends frame state outcome =>
    have close : frame.opcode = .close := by
      rcases state with ⟨-, rfl⟩ | state
      · rfl
      · exact sending frame state
    cases outcome with
    | waits answer _ _ => simp [answer] at closed
    | refused _ answer _ _ => simp [answer] at closed
    | sent final grown behind =>
      rw [behind.handed, grown]
      exact fun none => none frame (by simp) close
  | behind sent outcome =>
    rw [outcome.handed]
    exact marked sent

end WriteHalf

namespace Promised

variable {start : Sender} {size : Option Nat} {data : List Frame} {ws next : WebSocket}

/-- A close that has to wait changes nothing that is to be sent. -/
theorem waits {done sent replied : List Frame} {s : Streaming}
    (progress : Progress start done sent replied s) {frame : Frame} (close : frame.opcode = .close) :
    Progress start done sent replied
      { s with
        writeHalf := { s.writeHalf with closeState := some (.sending frame) }
        stream := s.stream.record (.pollReady .pending) } := by
  constructor
  · exact progress.prepared
  · exact progress.owed
  · exact progress.control
  · simpa [Streaming.handed] using progress.handed
  · exact progress.healthy.record _
  · simp [WriteHalf.closeSent]
  · intro other sending
    simp only [Option.some.injEq, CloseState.sending.injEq] at sending
    exact sending ▸ close

/-- A close sends its Close behind everything that was given. -/
theorem pollClose (promised : Promised start size data ws) (drained : ws.Drained .pollClose) :
    Promised start size data ws.pollClose.2 := by
  obtain ⟨silent, waiting | ⟨sent, sender, later, prepared, handed, close⟩⟩ := promised
  · obtain ⟨more, ⟨done, sent, replied, progress, split, setting, whole⟩, unsent⟩ := waiting
    have before : ¬ ws.streaming.writeHalf.closeSent := fun sent => progress.marked sent unsent
    obtain ⟨frame, close, equation⟩ :=
      WriteHalf.pollClose_unsent before progress.sending ws.streaming.stream
    refine ⟨silent, ?_⟩
    by_cases later : ws.streaming.stream.nextReply = .pending
    · rw [WriteHalf.pollSending_waits frame later] at equation
      have next : ws.pollClose.2.streaming =
          { ws.streaming with
            writeHalf := { ws.streaming.writeHalf with closeState := some (.sending frame) }
            stream := ws.streaming.stream.record (.pollReady .pending) } := by
        simp [WebSocket.pollClose, Streaming.pollClose, equation]
      refine .inl ⟨more, ⟨done, sent, replied, next ▸ waits progress close, split, setting, whole⟩, ?_⟩
      rw [WebSocket.handed, next]
      simpa [WebSocket.handed, Streaming.handed] using unsent
    · have empty := (drained.resolve_right fun other => other.elim before later)
      have grown : ws.pollClose.2.handed = ws.handed ++ [frame] := by
        have sent := ws.streaming.writeHalf.pollSending_handed frame progress.healthy later
        rw [← equation] at sent
        exact sent
      obtain ⟨rfl, -⟩ := List.append_eq_nil_iff.mp (progress.owed.symm.trans silent)
      have handed : ws.handed = sent := progress.handed.eq_right
      rw [empty, List.append_nil] at split
      subst split
      obtain ⟨first, middle, second, front, -, rfl⟩ := Sender.sendAll_split progress.prepared
      refine .inr ⟨first, middle, second ++ [frame], front, ?_, ?_⟩
      · rw [grown, handed, List.append_assoc]
      · exact fun none => none frame (by simp) close
  · have same := ws.streaming.pollClose_reader
    obtain ⟨later, handed, close⟩ := closed_grows same.stream.handed handed close
    exact ⟨silent, .inr ⟨sent, sender, later, prepared, handed, close⟩⟩

/-- A close that succeeds has handed a Close on. -/
theorem closes (promised : Promised start size data ws)
    (success : ws.pollClose.1 = .ready (.ok ())) : ¬ NoClose ws.pollClose.2.handed := by
  obtain ⟨-, ⟨_, ⟨_, _, _, progress, -⟩, -⟩ | ⟨_, _, later, -, handed, close⟩⟩ := promised
  · exact WriteHalf.pollClose_closed success progress.sending progress.marked
  · have grows := ws.streaming.pollClose_reader.stream.handed
    obtain ⟨later, handed, close⟩ := closed_grows grows handed close
    have same : ws.pollClose.2.handed = _ ++ later := handed
    rw [same]
    exact fun none => close fun frame member => none frame (by simp [member])

theorem call (promised : Promised start size data ws) (none : NoClose data) {call : Call}
    {answer : Answer} (drained : ws.Drained call) (taken : ws.step call = some (answer, next))
    (fine : ¬ answer.failed) : Promised start size data next := by
  by_cases closing : call = .pollClose
  · subst closing
    simp only [WebSocket.step, Option.some.injEq, Prod.mk.injEq] at taken
    exact taken.2 ▸ promised.pollClose drained
  · refine promised.step none taken ?_ closing fine
    rintro rfl
    exact drained

/-- A whole run keeps what has been promised. -/
theorem run {trace : List (Call × Answer)} {final : WebSocket}
    (run : Trace.Run WebSocket.step WebSocket.Drained ws trace final) (none : NoClose data)
    (fine : ∀ pair ∈ trace, ¬ pair.2.failed) (promised : Promised start size data ws) :
    Promised start size data final := by
  induction run with
  | nil => exact promised
  | cons drained taken _ ih =>
    have kept := promised.call none drained taken (fine _ (List.mem_cons_self ..))
    exact ih (fun pair member => fine pair (by simp [member])) kept

end Promised

/-- The data frames among those a run gave to the connection, as they are sent. -/
def dataPieces (size : Option Nat) (accepted : List Frame) : List Frame :=
  (accepted.filter (·.opcode ≠ .close)).flatMap (pieces size)

theorem pieces_noClose (size : Option Nat) {item : Frame} (other : item.opcode ≠ .close) :
    NoClose (pieces size item) := by
  intro piece member
  rcases pieces_opcode size item piece member with same | next
  · rwa [same]
  · simp [next]

private theorem dataPieces_noClose (size : Option Nat) (accepted : List Frame) :
    NoClose (dataPieces size accepted) := by
  intro piece member
  simp only [dataPieces, List.mem_flatMap, List.mem_filter, decide_eq_true_eq] at member
  obtain ⟨item, ⟨-, other⟩, inside⟩ := member
  exact pieces_noClose size other piece inside

/-- Up to the first close, everything given is promised. -/
theorem Promised.before {start : Sender} {size : Option Nat} {data : List Frame}
    {ws final : WebSocket} {trace : List (Call × Answer)}
    (run : Trace.Run WebSocket.step WebSocket.Drained ws trace final) (none : NoClose data)
    (opened : ∀ pair ∈ trace, pair.1 ≠ .pollClose) (fine : ∀ pair ∈ trace, ¬ pair.2.failed)
    (order : CloseLast (trace.filterMap Call.accepted)) (silent : ws.streaming.queued = [])
    (conserved : Conserved start size data ws) :
    Promised start size (data ++ dataPieces size (trace.filterMap Call.accepted)) final := by
  induction run generalizing data with
  | nil =>
    have same : data ++ dataPieces size [] ++ [] = data := by simp [dataPieces]
    exact .of_conserved (by simpa [dataPieces] using none) silent (same ▸ conserved)
  | @cons state call answer middle trace final drained taken rest ih =>
    have writing : call ≠ .pollNextFrame := by
      rintro rfl
      exact drained
    have silent := (WebSocket.step_writes writing taken).reader.queued.trans silent
    have kept := conserved.step taken (opened _ (List.mem_cons_self ..))
      (.inr (fine _ (List.mem_cons_self ..)))
    have opened : ∀ pair ∈ trace, pair.1 ≠ .pollClose :=
      fun pair member => opened pair (by simp [member])
    have fine : ∀ pair ∈ trace, ¬ pair.2.failed := fun pair member => fine pair (by simp [member])
    cases accepted : Call.accepted (call, answer) with
    | none =>
      simp only [accepted, Option.toList_none, List.flatMap_nil, List.append_nil,
        List.filterMap_cons] at kept order ⊢
      exact ih none opened fine order silent kept
    | some frame =>
      simp only [accepted, Option.toList_some, List.flatMap_singleton, List.filterMap_cons] at kept order ⊢
      by_cases close : frame.opcode = .close
      · -- A Close ends what is given, and stays behind the data.
        have promised := Promised.of_conserved none silent kept
        simpa [order.1 close, dataPieces, close] using promised.run rest none fine
      · have more : NoClose (data ++ pieces size frame) := by
          intro piece member
          rcases List.mem_append.mp member with before | now
          · exact none piece before
          · exact pieces_noClose size close piece now
        have promised := ih more opened fine order.2 silent kept
        simpa [dataPieces, close] using promised

/-- Fragments that wait when the connection is closed are never handed on. -/
theorem unflushed_fragments_lost :
    ∃ final,
      Trace.Run WebSocket.step (fun _ _ => True)
        (.new .stored (.new [] (List.replicate 9 (.ready (.ok ()))) 0)
          { Negotiation.plain with fragmentation := some ⟨none, some 1⟩ })
        [(.pollReady, .reply (.ready (.ok ()))),
          (.startSend (.text [104, 105]), .sent (.ok ())),
          (.pollClose, .reply (.ready (.ok ())))] final ∧
      final.handed = [.close .normal []] :=
  ⟨_, .of_exec [.pollReady, .startSend (.text [104, 105]), .pollClose] rfl, by decide⟩

/-- A close that finds no fragment waiting leaves everything that was given
before it handed on in full, in order and ahead of the Close. -/
theorem close_behind_data (flate : Flate) (incoming : List Arrival) (replies : List Reply)
    (clock : Nat) (opts : Negotiation) {before rest : List (Call × Answer)} {final : WebSocket}
    (healthy : ∀ reply ∈ replies, ∀ error, reply ≠ .ready (.error error))
    (run : Trace.Run WebSocket.step WebSocket.Drained
      (.new flate (.new incoming replies clock) opts)
      (before ++ rest ++ [(.pollClose, .reply (.ready (.ok ())))]) final)
    (opened : ∀ pair ∈ before, pair.1 ≠ .pollClose)
    (fine : ∀ pair ∈ before ++ rest, ¬ pair.2.failed)
    (order : CloseLast (before.filterMap Call.accepted)) :
    ∃ sent sender later,
      (Streaming.new flate (.new incoming replies clock) opts).sender.sendAll
        (dataPieces ((opts.fragmentation.bind (·.fragmentSize)).map (·.toNat))
          (before.filterMap Call.accepted)) = some (sent, sender) ∧
      final.handed = sent ++ later ∧ NoClose sent ∧ ¬ NoClose later := by
  obtain ⟨middle, front, last⟩ := run.split
  obtain ⟨closing, first, second⟩ := front.split
  have none := dataPieces_noClose ((opts.fragmentation.bind (·.fragmentSize)).map (·.toNat))
    (before.filterMap Call.accepted)
  have promised := Promised.before first (show NoClose [] from nofun) opened
    (fun pair member => fine pair (by simp [member])) order rfl (Conserved.new flate healthy)
  rw [List.nil_append] at promised
  have kept := promised.run second none fun pair member => fine pair (by simp [member])
  cases last with
  | cons drained taken done =>
    cases done with
    | nil =>
      have closed := kept.call none drained taken nofun
      simp only [WebSocket.step, Option.some.injEq, Prod.mk.injEq, Answer.reply.injEq] at taken
      obtain ⟨success, rfl⟩ := taken
      obtain ⟨-, ⟨_, _, unsent⟩ | ⟨sent, sender, later, prepared, handed, close⟩⟩ := closed
      · exact absurd unsent (kept.closes success)
      · refine ⟨sent, sender, later, prepared, handed, ?_, close⟩
        rwa [Sender.sendAll_noClose prepared]

/-- A message in two fragments, flushed before the close. -/
theorem close_behind_data_flushed :
    ∃ final,
      Trace.Run WebSocket.step WebSocket.Drained
        (.new .stored (.new [] (List.replicate 10 (.ready (.ok ()))) 0)
          { Negotiation.plain with fragmentation := some ⟨none, some 1⟩ })
        ([(.pollReady, .reply (.ready (.ok ()))), (.startSend (.text [104, 105]), .sent (.ok ())),
          (.pollFlush, .reply (.ready (.ok ())))] ++ [] ++
          [(.pollClose, .reply (.ready (.ok ())))]) final ∧
      ∃ sent sender later,
        (Streaming.new .stored (.new [] (List.replicate 10 (.ready (.ok ()))) 0)
          { Negotiation.plain with fragmentation := some ⟨none, some 1⟩ }).sender.sendAll
          (dataPieces (some 1) [.text [104, 105]]) = some (sent, sender) ∧
        final.handed = sent ++ later ∧ NoClose sent ∧ ¬ NoClose later := by
  have run : ∃ final,
      Trace.Run WebSocket.step WebSocket.Drained
        (.new .stored (.new [] (List.replicate 10 (.ready (.ok ()))) 0)
          { Negotiation.plain with fragmentation := some ⟨none, some 1⟩ })
        ([(.pollReady, .reply (.ready (.ok ()))), (.startSend (.text [104, 105]), .sent (.ok ())),
          (.pollFlush, .reply (.ready (.ok ())))] ++ [] ++
          [(.pollClose, .reply (.ready (.ok ())))]) final :=
    ⟨_, .cons trivial rfl <| .cons trivial rfl <| .cons trivial rfl <| .cons (.inl rfl) rfl .nil⟩
  obtain ⟨final, run⟩ := run
  refine ⟨final, run, close_behind_data _ _ _ _ _ ?_ run (by decide) (by decide) (by decide)⟩
  simp

end Yawc
