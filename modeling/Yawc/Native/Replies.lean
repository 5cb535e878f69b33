import Yawc.Native.LastReply

/-! The replies a connection sends by itself: a Pong for every Ping, in order, and
at most one Close behind them. -/

namespace Yawc

namespace Streaming

/-- The sink reports no error, and the writer takes what it is given. -/
structure Writable (connection : Streaming) : Prop where
  healthy : connection.stream.Healthy
  unfinished : connection.writeHalf.closeState ≠ some .done

/-- An attempt that does not fail and leaves the connection writable. -/
structure Works {Value : Type} (attempt : Poll.Attempt WebSocketError Streaming Value) : Prop where
  fine : ∀ error, attempt.1 ≠ .ready (.error error)
  writable : attempt.2.Writable

/-- What is owed can be flushed. -/
theorem pollFlushObligated_works {self : Streaming} (writable : self.Writable) :
    Works self.pollFlushObligated := by
  obtain ⟨unfinished, replies, cause, -⟩ := pollFlushObligated_delivers writable.unfinished
  have healthy : self.pollFlushObligated.2.stream.Healthy :=
    fun reply member => writable.healthy reply (replies.subset member)
  exact ⟨fun error failed => writable.healthy _ (cause error failed) error rfl, healthy, unfinished⟩

end Streaming

/-- The Pongs that answer the Pings among the frames. -/
def pongs (frames : List Frame) : List Frame :=
  (frames.filter (·.opcode = .ping)).map fun frame => .pong frame.payload

private theorem pongs_snoc (frames : List Frame) (frame : Frame) :
    pongs (frames ++ [frame]) =
      pongs frames ++ if frame.opcode = .ping then [.pong frame.payload] else [] := by
  by_cases ping : frame.opcode = .ping
  · simp [pongs, ping]
  · simp [pongs, ping]

/-- The read error a call reported. -/
def Call.failure : Call × Answer → Option WebSocketError
  | (_, .read (.ready (.error error))) => if error = .connectionClosed then none else some error
  | _ => none

/-- The Close that follows the Pongs once `frames` have been read and `failures`
reported: none, the echo of the Close that came last, or one for the error. -/
inductive Ending (frames : List Frame) : List WebSocketError → List Frame → Prop where
  | none (open' : NoClose frames) : Ending frames [] []
  | echo {earlier : List Frame} {frame : Frame} (opcode : frame.opcode = .close)
      (valid : Streaming.checkClose frame = .ok ()) (last : frames = earlier ++ [frame])
      (open' : NoClose earlier) : Ending frames [] [.closeRaw frame.payload]
  | error (error : WebSocketError) : Ending frames [error] [Streaming.closeFor error]

/-- The frames a user's calls handed on: each as it was given, up to its
compression, and the Close of a graceful close. -/
inductive Hands : List (Call × Answer) → List Frame → Prop where
  | nil : Hands [] []
  | sent {trace : List (Call × Answer)} {own : List Frame} {item frame : Frame}
      (past : Hands trace own) (opcode : frame.opcode = item.opcode) (fin : frame.fin = item.fin)
      (mask : frame.mask = item.mask) :
      Hands (trace ++ [(.startSend item, .sent (.ok ()))]) (own ++ [frame])
  | closed {trace : List (Call × Answer)} {own : List Frame} {answer : Answer}
      (past : Hands trace own) :
      Hands (trace ++ [(.pollClose, answer)]) (own ++ [.close .normal []])
  | other {trace : List (Call × Answer)} {own : List Frame} {pair : Call × Answer}
      (past : Hands trace own) (unsent : ∀ item, pair ≠ (.startSend item, .sent (.ok ()))) :
      Hands (trace ++ [pair]) own

/-- Where sending stands after the calls of `trace`: of the replies ever owed,
`replied` have been handed on, among the user's `own` frames. -/
structure Handing (trace : List (Call × Answer)) (replied own : List Frame)
    (connection : Streaming) : Prop where
  owed : connection.queued = replied ++ connection.obligatedSends
  handed : Interleaved replied own connection.handed
  own : Hands trace own
  healthy : connection.stream.Healthy
  sending : ∀ frame, connection.writeHalf.closeState = some (.sending frame) →
    frame = .close .normal []
  unfinished : connection.writeHalf.closeState ≠ some .done

namespace Handing

variable {trace : List (Call × Answer)} {replied own : List Frame} {s after : Streaming}

/-- Flushing moves owed replies to the sink. -/
theorem flush (handing : Handing trace replied own s) {popped : List Frame}
    (effect : Streaming.FlushEffect s after popped) :
    Handing trace (replied ++ popped) own after where
  owed := by rw [effect.reader.queued, handing.owed, effect.owed, List.append_assoc]
  handed := by
    rw [effect.handed handing.healthy]
    exact handing.handed.appendLeft popped
  own := handing.own
  healthy := effect.healthy handing.healthy
  sending := by
    rw [effect.writer]
    exact fun frame sending => handing.sending frame (onSend_stage popped (by simp) sending)
  unfinished := by
    rw [effect.writer]
    exact fun done => handing.unfinished (onSend_stage popped (by simp) done)

theorem flushed {Value : Type} {attempt : Poll.Attempt WebSocketError Streaming Value}
    (handing : Handing trace replied own s) (flushes : Streaming.Flushes s attempt) :
    ∃ replied, Handing trace replied own attempt.2 :=
  flushes.effect.elim fun _ effect => ⟨_, handing.flush effect⟩

/-- Taking an arrival up sends nothing. -/
theorem takes (handing : Handing trace replied own s) {later : Framed} (readHalf : ReadHalf)
    {item : Poll (Option (Result Frame))} (takes : s.stream.Takes later item) :
    Handing trace replied own { s with stream := later, readHalf } :=
  { handing with
    handed := by simpa [Streaming.handed, takes.handed] using handing.handed
    healthy := by simpa [Framed.Healthy, takes.replies] using handing.healthy }

theorem emitClose (handing : Handing trace replied own s) (frame : Frame) :
    Handing trace replied own (s.emitClose frame) :=
  { handing with owed := by simp [Streaming.emitClose, Streaming.oblige, handing.owed] }

/-- A received frame at most makes a reply owed. -/
theorem onFrame (handing : Handing trace replied own s) {frame : Frame} {maxReadBuffer : Nat}
    {result : Result Frame} (taken : s.onFrame frame maxReadBuffer = (result, after)) :
    Handing trace replied own after := by
  have outcome := s.onFrame_outcome frame maxReadBuffer
  rw [taken] at outcome
  cases outcome with
  | ping _ => exact { handing with owed := by simp [handing.owed] }
  | pong _ => exact handing
  | close _ _ => exact handing.emitClose _
  | badClose _ _ => exact handing
  | data _ _ => exact { handing with }

/-- Reading hands on nothing but replies. -/
theorem pollNextFrameWithLimit (handing : Handing trace replied own s) (maxReadBuffer : Nat) :
    ∃ replied, Handing trace replied own (s.pollNextFrameWithLimit maxReadBuffer).2 := by
  have step := s.pollNextFrameWithLimit_step maxReadBuffer
  generalize s.pollNextFrameWithLimit maxReadBuffer = result at step ⊢
  cases step with
  | closed _ => exact handing.flushed (s.silent_flushes (.inr rfl)).1
  | silent _ takes => exact (handing.takes _ takes).flushed (Streaming.silent_flushes _ (.inl rfl)).1
  | ended _ takes => exact (handing.takes _ takes).flushed (Streaming.silent_flushes _ (.inr rfl)).1
  | failed _ takes _ => exact ⟨replied, (handing.takes _ takes).emitClose _⟩
  | accepted _ takes taken => exact ⟨replied, (handing.takes _ takes).onFrame taken⟩
  | refused _ takes taken _ => exact ⟨replied, ((handing.takes _ takes).onFrame taken).emitClose _⟩

/-- A call that is no user's frame on its way. -/
theorem other (handing : Handing trace replied own s) (pair : Call × Answer)
    (unsent : ∀ item, pair ≠ (.startSend item, .sent (.ok ()))) :
    Handing (trace ++ [pair]) replied own s :=
  { handing with own := handing.own.other unsent }

/-- A user's frame is handed on, unless it fails to be compressed. -/
theorem startSend (handing : Handing trace replied own s) (item : Frame) :
    ∃ own, Handing (trace ++ [(.startSend item, .sent (s.startSend item).1)]) replied own
      (s.startSend item).2 := by
  rcases s.startSend_cases item with ⟨error, deflate, failed⟩ | ⟨frame, deflate, prepared, sent⟩
  · rw [failed]
    have kept := handing.other (.startSend item, .sent (.error error)) (by simp)
    exact ⟨own, { kept with }⟩
  · obtain ⟨opcode, fin, mask⟩ := Streaming.prepare_frame prepared
    obtain ⟨taken, grown⟩ := handing.healthy.startSend frame
    have accepted : (Streaming.writeStartSend { s with deflate } frame).1 = .ok () := taken
    rw [sent, accepted]
    refine ⟨own ++ [frame], handing.owed, ?_, handing.own.sent opcode fin mask,
      handing.healthy.record _, ?_, ?_⟩
    · have handed : (Streaming.writeStartSend { s with deflate } frame).2.handed = s.handed ++ [frame] :=
        grown
      rw [handed]
      exact handing.handed.right frame
    · exact fun other sending => handing.sending other (onSend_stage [frame] (by simp) sending)
    · exact fun done => handing.unfinished (onSend_stage [frame] (by simp) done)

/-- A call of a graceful close hands on its Close, or nothing. -/
theorem pollClose (handing : Handing trace replied own s) :
    ∃ own, Handing (trace ++ [(.pollClose, .reply s.pollClose.1)]) replied own s.pollClose.2 := by
  have sends := s.writeHalf.pollClose_sends s.stream
  have outcome := s.writeHalf.pollClose_outcome s.stream
  unfold Streaming.pollClose
  generalize s.writeHalf.pollClose s.stream = result at sends outcome ⊢
  obtain ⟨reply, writeHalf, stream⟩ := result
  have healthy : stream.Healthy :=
    fun reply member => handing.healthy reply (sends.replies.subset member)
  have silent (same : stream.handed = s.stream.handed)
      (sending : ∀ frame, writeHalf.closeState = some (.sending frame) → frame = .close .normal [])
      (unfinished : writeHalf.closeState ≠ some .done) :
      Handing (trace ++ [(.pollClose, .reply reply)]) replied own { s with writeHalf, stream } := by
    refine ⟨handing.owed, ?_, handing.own.other (by simp), healthy, sending, unfinished⟩
    simpa [Streaming.handed, same] using handing.handed
  cases outcome with
  | sends frame state outcome =>
    obtain rfl : frame = .close .normal [] :=
      state.elim And.right fun state => handing.sending frame state
    obtain ⟨sending, unfinished⟩ := outcome.state
    rcases outcome.handed with same | grown
    · exact ⟨own, silent same sending unfinished⟩
    · refine ⟨own ++ [.close .normal []], handing.owed, ?_, handing.own.closed, healthy, sending,
        unfinished⟩
      have grown : stream.handed = s.stream.handed ++ [.close .normal []] := grown
      simpa [Streaming.handed, grown] using handing.handed.right _
  | behind _ outcome =>
    obtain ⟨sending, unfinished⟩ := outcome.state
    exact ⟨own, silent outcome.handed (fun frame state => absurd state (sending frame)) unfinished⟩

/-- Every call hands on what it should. -/
theorem step (handing : Handing trace replied own s) (call : Call) :
    ∃ replied own, Handing (trace ++ [(call, (s.step call).1)]) replied own (s.step call).2 := by
  cases call with
  | pollNextFrame =>
    obtain ⟨replied, kept⟩ := handing.pollNextFrameWithLimit s.maxPayloadRead
    exact ⟨replied, own, kept.other _ (by simp)⟩
  | pollReady =>
    obtain ⟨replied, kept⟩ := handing.flushed s.pollReady_effect
    exact ⟨replied, own, kept.other _ (by simp)⟩
  | startSend item => exact ⟨replied, handing.startSend item⟩
  | pollFlush =>
    obtain ⟨replied, kept⟩ := handing.flushed s.pollWriteFlush_effect
    exact ⟨replied, own, kept.other _ (by simp)⟩
  | pollClose => exact ⟨replied, handing.pollClose⟩

theorem new (flate : Flate) {incoming : List Arrival} {replies : List Reply} {clock : Nat}
    (opts : Negotiation) (healthy : (Framed.new incoming replies clock).Healthy) :
    Handing [] [] [] (.new flate (.new incoming replies clock) opts) :=
  ⟨rfl, .nil, .nil, healthy, by simp [Streaming.new, WriteHalf.new],
    by simp [Streaming.new, WriteHalf.new]⟩

end Handing

/-- The arrivals taken up, with one more poll. -/
theorem Framed.Takes.grown {incoming taken : List Arrival} {before later : Framed}
    {item : Poll (Option (Result Frame))} (takes : before.Takes later item)
    (arrived : incoming = taken ++ before.incoming) :
    ∃ grown, incoming = grown ++ later.incoming ∧
      (arriving grown = arriving taken ++ match item with
        | .ready (some (.ok frame)) => [frame]
        | _ => []) ∧
      ((∃ arrival ∈ grown, arrival.item = .ready none) →
        (∃ arrival ∈ taken, arrival.item = .ready none) ∨ item = .ready none) := by
  obtain ⟨skipped, pending, split⟩ := takes.taken
  have quiet (rest : List Arrival) : arriving (taken ++ skipped ++ rest) =
      arriving taken ++ arriving rest := by
    rw [List.append_assoc, arriving, List.filterMap_append, ← arriving, ← arriving,
      Framed.Takes.arriving_skipped pending]
  cases item with
  | pending =>
    refine ⟨taken ++ skipped, by rw [arrived, split, List.append_assoc], ?_, ?_⟩
    · simpa [arriving] using quiet []
    · rintro ⟨arrival, member, last⟩
      rcases List.mem_append.mp member with before | now
      · exact .inl ⟨arrival, before, last⟩
      · simp [pending arrival now] at last
  | ready value =>
    obtain ⟨arrival, same, split, -⟩ := split
    refine ⟨taken ++ skipped ++ [arrival], by simp [arrived, split], ?_, ?_⟩
    · rw [quiet]
      rcases value with _ | _ | frame
      · simp [arriving, same]
      · simp [arriving, same]
      · simp [arriving, same]
    · rintro ⟨other, member, last⟩
      simp only [List.mem_append, List.mem_singleton] at member
      rcases member with (before | now) | rfl
      · exact .inl ⟨other, before, last⟩
      · simp [pending other now] at last
      · exact .inr (same.symm.trans last)

/-- What has been read and owed after the calls of `trace`: the arrivals `taken`
up, and the Close behind the Pongs, if any. -/
structure Replying (incoming : List Arrival) (trace : List (Call × Answer)) (taken : List Arrival)
    (close : List Frame) (connection : Streaming) : Prop where
  arrived : incoming = taken ++ connection.stream.incoming
  queued : connection.queued = pongs (arriving taken) ++ close
  ending : Ending (arriving taken) (trace.filterMap Call.failure) close
  reading : connection.readHalf.isClosed = false → close = []
  ended : (∃ arrival ∈ taken, arrival.item = .ready none) → connection.readHalf.isClosed
  reported : (.pollNextFrame, .read (.ready (.error .connectionClosed))) ∈ trace →
    connection.readHalf.isClosed

namespace Replying

variable {incoming : List Arrival} {trace : List (Call × Answer)} {taken : List Arrival}
  {close : List Frame} {s after : Streaming}

/-- An open reader has read no Close and failed in nothing. -/
theorem unclosed (replying : Replying incoming trace taken close s)
    (reading : s.readHalf.isClosed = false) :
    close = [] ∧ trace.filterMap Call.failure = [] ∧ NoClose (arriving taken) := by
  have none := replying.reading reading
  have ending := replying.ending
  rw [none] at ending
  generalize trace.filterMap Call.failure = failures at ending ⊢
  cases ending with
  | none open' => exact ⟨none, rfl, open'⟩

/-- A call that leaves the reader alone and reports no failure. -/
theorem same (replying : Replying incoming trace taken close s) (reader : s.SameReader after)
    {pair : Call × Answer} (fine : Call.failure pair = none)
    (reported : pair = (.pollNextFrame, .read (.ready (.error .connectionClosed))) →
      after.readHalf.isClosed) :
    Replying incoming (trace ++ [pair]) taken close after where
  arrived := by rw [reader.stream.incoming]; exact replying.arrived
  queued := by rw [reader.queued]; exact replying.queued
  ending := by simpa [fine] using replying.ending
  reading := by rw [reader.readHalf]; exact replying.reading
  ended := by rw [reader.readHalf]; exact replying.ended
  reported := by
    intro member
    rcases List.mem_append.mp member with before | last
    · rw [reader.readHalf]
      exact replying.reported before
    · exact reported (List.mem_singleton.mp last).symm

/-- Silence is answered by silence or by the end of the connection. -/
theorem silence (healthy : s.stream.Healthy) {answer : Poll (Result Frame)}
    (flushes : Streaming.Flushes s (answer, after)) (nothing : ∀ frame, answer ≠ .ready (.ok frame)) :
    answer = .pending ∨ answer = .ready (.error .connectionClosed) := by
  rcases answer with (error | frame) | _
  · rcases flushes.cause error rfl with rfl | sink
    · exact .inr rfl
    · exact absurd rfl (healthy _ sink error)
  · exact absurd rfl (nothing frame)
  · exact .inl rfl

/-- Flushing in silence, where the end of the connection is only reported if it
has come. -/
theorem silent (replying : Replying incoming trace taken close s) (healthy : s.stream.Healthy)
    {result : Poll (Result Frame) × Streaming} (flushes : Streaming.Flushes s result)
    (nothing : ∀ frame, result.1 ≠ .ready (.ok frame))
    (closed : result.1 = .ready (.error .connectionClosed) → s.readHalf.isClosed) :
    Replying incoming (trace ++ [(.pollNextFrame, .read result.1)]) taken close result.2 := by
  apply replying.same flushes.reader
  · rcases silence healthy flushes nothing with waits | ended
    · simp [Call.failure, waits]
    · simp [Call.failure, ended]
  · intro reported
    simp only [Prod.mk.injEq, true_and, Answer.read.injEq] at reported
    rw [flushes.reader.readHalf]
    exact closed reported

/-- A frame that is read next, with what is owed and closed behind it. -/
theorem reads (replying : Replying incoming trace taken close s)
    (reading : s.readHalf.isClosed = false) {later : Framed} {raw : Frame}
    (takes : s.stream.Takes later (.ready (some (.ok raw)))) {answer : Result Frame} (owed : List Frame)
    (stream : after.stream = later)
    (queued : after.queued = s.queued ++
      (if raw.opcode = .ping then [.pong raw.payload] else []) ++ owed)
    (ending : NoClose (arriving taken) →
      Ending (arriving taken ++ [raw])
        (Call.failure (.pollNextFrame, .read (.ready answer))).toList owed)
    (open' : after.readHalf.isClosed = false → owed = [])
    (fine : answer ≠ .error .connectionClosed) :
    ∃ taken close, Replying incoming (trace ++ [(.pollNextFrame, .read (.ready answer))]) taken close
      after := by
  obtain ⟨grown, arrived, frames, last⟩ := takes.grown replying.arrived
  obtain ⟨rfl, failures, none⟩ := replying.unclosed reading
  dsimp only at frames
  refine ⟨grown, owed, by rw [stream]; exact arrived, ?_, ?_, open', ?_, ?_⟩
  · rw [queued, replying.queued, frames, pongs_snoc, List.append_nil]
  · rw [List.filterMap_append, failures, frames]
    have last := ending none
    cases failed : Call.failure (.pollNextFrame, .read (.ready answer)) <;> simpa [failed] using last
  · intro found
    rcases last found with before | now
    · simpa [reading] using replying.ended before
    · simp at now
  · intro member
    have before : (Call.pollNextFrame, Answer.read (.ready (.error .connectionClosed))) ∈ trace := by
      simpa [fine.symm] using member
    simp [replying.reported before] at reading

private theorem NoClose.snoc {frames : List Frame} (none : NoClose frames) {frame : Frame}
    (other : frame.opcode ≠ .close) : NoClose (frames ++ [frame]) := by
  intro each member
  rcases List.mem_append.mp member with before | last
  · exact none each before
  · rwa [List.mem_singleton.mp last]

/-- An accepted frame is answered if it is a Ping or a Close. -/
theorem accepted (replying : Replying incoming trace taken close s)
    (reading : s.readHalf.isClosed = false) {later : Framed} {raw received : Frame}
    {maxReadBuffer : Nat} (takes : s.stream.Takes later (.ready (some (.ok raw))))
    (done : Streaming.onFrame { s with stream := later, readHalf := (s.readHalf.receive raw).2 }
      (s.readHalf.receive raw).1 maxReadBuffer = (.ok received, after)) :
    ∃ taken close, Replying incoming (trace ++ [(.pollNextFrame, .read (.ready (.ok received)))])
      taken close after := by
  have outcome := Streaming.onFrame_outcome
    { s with stream := later, readHalf := (s.readHalf.receive raw).2 }
    (s.readHalf.receive raw).1 maxReadBuffer
  rw [done] at outcome
  have unanswered (other : raw.opcode ≠ .close) (none : NoClose (arriving taken)) :
      Ending (arriving taken ++ [raw])
        (Call.failure (.pollNextFrame, .read (.ready (.ok received)))).toList [] :=
    .none (NoClose.snoc none other)
  cases outcome with
  | ping opcode =>
    have ping : raw.opcode = .ping := opcode
    refine replying.reads reading takes [] rfl ?_ (unanswered (by simp [ping])) (by simp)
      (by simp)
    simp [ping, ReadHalf.receive]
  | pong opcode =>
    have pong : raw.opcode = .pong := opcode
    refine replying.reads reading takes [] rfl ?_ (unanswered (by simp [pong])) (by simp)
      (by simp)
    simp [pong]
  | close opcode valid =>
    have close : raw.opcode = .close := opcode
    refine replying.reads reading takes [.closeRaw raw.payload] rfl ?_ ?_
      (by simp) (by simp)
    · simp [Streaming.oblige, close, ReadHalf.receive]
    · exact fun none => .echo close valid rfl none
  | data opcode _ =>
    have other (control : OpCode) (is : control.isControl) : raw.opcode ≠ control := by
      rintro rfl
      simp [ReadHalf.receive, is] at opcode
    refine replying.reads reading takes [] rfl ?_ (unanswered (other _ rfl)) (by simp)
      (by simp)
    simp [other .ping rfl]

/-- A refused frame is answered by a Close. -/
theorem refused (replying : Replying incoming trace taken close s)
    (reading : s.readHalf.isClosed = false) {later : Framed} {raw : Frame} {error : WebSocketError}
    {maxReadBuffer : Nat} (takes : s.stream.Takes later (.ready (some (.ok raw))))
    (done : Streaming.onFrame { s with stream := later, readHalf := (s.readHalf.receive raw).2 }
      (s.readHalf.receive raw).1 maxReadBuffer = (.error error, after))
    (cause : error ≠ .connectionClosed) :
    ∃ taken close, Replying incoming (trace ++ [(.pollNextFrame, .read (.ready (.error error)))])
      taken close (after.emitClose (Streaming.closeFor error)) := by
  have outcome := Streaming.onFrame_outcome
    { s with stream := later, readHalf := (s.readHalf.receive raw).2 }
    (s.readHalf.receive raw).1 maxReadBuffer
  rw [done] at outcome
  have other : raw.opcode ≠ .ping := by
    intro ping
    have same : (s.readHalf.receive raw).1.opcode = .ping := ping
    cases outcome with
    | badClose opcode _ => simp [same] at opcode
    | data opcode _ => simp [same, OpCode.isControl] at opcode
  have stream := Streaming.onFrame_stream done
  have queued := Streaming.onFrame_refused_queued done
  apply replying.reads reading takes [Streaming.closeFor error]
  · exact stream
  · simp [Streaming.emitClose, Streaming.oblige, other, queued]
  · intro _
    simpa [Call.failure, cause] using Ending.error error
  · simp [Streaming.emitClose]
  · simpa using cause

/-- A read keeps to the replies: it owes a Pong for a Ping, an echo for a Close
and a Close for an error. -/
theorem pollNextFrameWithLimit {replied own : List Frame}
    (replying : Replying incoming trace taken close s) (handing : Handing trace replied own s)
    (maxReadBuffer : Nat) :
    ∃ taken close,
      Replying incoming
        (trace ++ [(.pollNextFrame, .read (s.pollNextFrameWithLimit maxReadBuffer).1)]) taken close
        (s.pollNextFrameWithLimit maxReadBuffer).2 := by
  have step := s.pollNextFrameWithLimit_step maxReadBuffer
  generalize s.pollNextFrameWithLimit maxReadBuffer = result at step ⊢
  cases step with
  | closed closed =>
    obtain ⟨flushes, nothing⟩ := s.silent_flushes (.inr rfl)
    exact ⟨taken, close, replying.silent handing.healthy flushes nothing fun _ => closed⟩
  | @silent later reading takes =>
    obtain ⟨grown, arrived, frames, last⟩ := takes.grown replying.arrived
    obtain ⟨flushes, nothing⟩ := Streaming.silent_flushes { s with stream := later } (.inl rfl)
    have handing := handing.takes s.readHalf takes
    have kept : Replying incoming trace grown close { s with stream := later } :=
      { replying with
        arrived
        queued := by simpa [frames] using replying.queued
        ending := by simpa [frames] using replying.ending
        ended := fun found => replying.ended ((last found).resolve_right (by simp)) }
    refine ⟨grown, close, kept.silent handing.healthy flushes nothing fun ended => ?_⟩
    have works := Streaming.pollFlushObligated_works ⟨handing.healthy, handing.unfinished⟩
    rcases flushed : { s with stream := later }.pollFlushObligated with ⟨(error | _) | _, next⟩
    · exact absurd (by rw [flushed]) (works.fine error)
    · simp [flushed] at ended
    · simp [flushed] at ended
  | @ended later reading takes =>
    obtain ⟨grown, arrived, frames, last⟩ := takes.grown replying.arrived
    obtain ⟨flushes, nothing⟩ := Streaming.silent_flushes
      { s with stream := later, readHalf := { s.readHalf with isClosed := true } } (.inr rfl)
    have handing := handing.takes { s.readHalf with isClosed := true } takes
    have kept : Replying incoming trace grown close
        { s with stream := later, readHalf := { s.readHalf with isClosed := true } } :=
      { arrived
        queued := by simpa [frames] using replying.queued
        ending := by simpa [frames] using replying.ending
        reading := by simp
        ended := fun _ => rfl
        reported := fun _ => rfl }
    exact ⟨grown, close, kept.silent handing.healthy flushes nothing fun _ => rfl⟩
  | @failed later error reading takes cause =>
    obtain ⟨grown, arrived, frames, last⟩ := takes.grown replying.arrived
    obtain ⟨rfl, fine, -⟩ := replying.unclosed reading
    refine ⟨grown, [Streaming.closeFor error], arrived, ?_, ?_, by simp [Streaming.emitClose],
      fun _ => rfl, fun _ => rfl⟩
    · simpa [frames, Streaming.emitClose, Streaming.oblige] using replying.queued
    · simpa [Call.failure, cause, fine] using Ending.error error
  | accepted reading takes done => exact replying.accepted reading takes done
  | refused reading takes done cause => exact replying.refused reading takes done cause

/-- Every call keeps to the replies. -/
theorem step {replied own : List Frame} (replying : Replying incoming trace taken close s)
    (handing : Handing trace replied own s) (call : Call) :
    ∃ taken close,
      Replying incoming (trace ++ [(call, (s.step call).1)]) taken close (s.step call).2 := by
  cases call with
  | pollNextFrame => exact replying.pollNextFrameWithLimit handing s.maxPayloadRead
  | pollReady => exact ⟨taken, close, replying.same s.pollReady_effect.reader rfl (by simp)⟩
  | startSend item => exact ⟨taken, close, replying.same (s.startSend_reader item) rfl (by simp)⟩
  | pollFlush => exact ⟨taken, close, replying.same s.pollWriteFlush_effect.reader rfl (by simp)⟩
  | pollClose => exact ⟨taken, close, replying.same s.pollClose_reader rfl (by simp)⟩

theorem new (flate : Flate) (incoming : List Arrival) (replies : List Reply) (clock : Nat)
    (opts : Negotiation) :
    Replying incoming [] [] [] (.new flate (.new incoming replies clock) opts) where
  arrived := rfl
  queued := rfl
  ending := .none (by simp [NoClose, arriving])
  reading := fun _ => rfl
  ended := by simp
  reported := by simp

end Replying

/-- A received Close, a read error or the end of the stream has been met, or the end has
been reported. -/
def Stopped (taken : List Arrival) (trace : List (Call × Answer)) : Prop :=
  (∃ frame ∈ arriving taken, frame.opcode = .close) ∨ trace.filterMap Call.failure ≠ [] ∨
    (∃ arrival ∈ taken, arrival.item = .ready none) ∨
    (.pollNextFrame, .read (.ready (.error .connectionClosed))) ∈ trace

/-- The reader has stopped by then. -/
theorem Replying.stopped {incoming taken : List Arrival} {trace : List (Call × Answer)}
    {close : List Frame} {s : Streaming} (replying : Replying incoming trace taken close s)
    (stopped : Stopped taken trace) : s.readHalf.isClosed := by
  by_contra reading
  obtain ⟨-, failures, none⟩ := replying.unclosed (by simpa using reading)
  rcases stopped with ⟨frame, member, opcode⟩ | failed | ended | reported
  · exact none frame member opcode
  · exact failed failures
  · exact reading (replying.ended ended)
  · exact reading (replying.reported reported)

/-- What a connection sends by itself, over every run with a sink that reports no
error: a Pong for each Ping it has taken up, in order, then at most one Close.
What has been handed on of these comes first, and apart from it only the user's
own frames are. Once the connection has stopped, a read reports its end, or waits
for replies to be flushed. -/
theorem reply_discipline (flate : Flate) {incoming : List Arrival} {replies : List Reply}
    {clock : Nat} (opts : Negotiation) (healthy : (Framed.new incoming replies clock).Healthy)
    {trace : List (Call × Answer)} {final : Streaming}
    (run : Trace.Run (fun (connection : Streaming) call => some (connection.step call))
      (fun _ _ => True) (.new flate (.new incoming replies clock) opts) trace final) :
    ∃ taken close replied own,
      incoming = taken ++ final.stream.incoming ∧
      final.queued = pongs (arriving taken) ++ close ∧
      Ending (arriving taken) (trace.filterMap Call.failure) close ∧
      final.queued = replied ++ final.obligatedSends ∧
      Interleaved replied own final.handed ∧ Hands trace own ∧
      (Stopped taken trace →
        (final.step .pollNextFrame).1 = .read (.ready (.error .connectionClosed)) ∨
        (final.step .pollNextFrame).1 = .read .pending ∧
          (final.obligatedSends ≠ [] ∨ final.flushSends)) := by
  have kept := run.follows
    (motive := fun past state => (∃ replied own, Handing past replied own state) ∧
      ∃ taken close, Replying incoming past taken close state) ?_
    ⟨⟨[], [], .new flate opts healthy⟩, [], [], .new flate incoming replies clock opts⟩
  · obtain ⟨⟨replied, own, handing⟩, taken, close, replying⟩ := kept
    refine ⟨taken, close, replied, own, replying.arrived, replying.queued, replying.ending,
      handing.owed, handing.handed, handing.own, fun stopped => ?_⟩
    have closed := replying.stopped stopped
    obtain ⟨flushes, nothing, waits⟩ :=
      Streaming.pollNextFrameWithLimit_closed closed final.maxPayloadRead
    rcases Replying.silence handing.healthy flushes nothing with pending | ended
    · exact .inr ⟨congrArg Answer.read pending, waits pending⟩
    · exact .inl (congrArg Answer.read ended)
  · rintro past state call answer next - taken ⟨⟨replied, own, handing⟩, read, close, replying⟩
    simp only [Option.some.injEq] at taken
    have handed := handing.step call
    have replied := replying.step handing call
    rw [taken] at handed replied
    exact ⟨handed, replied⟩

/-- A Ping and a Close are answered, in that order, and then the connection ends. -/
theorem reply_discipline_ping :
    ∃ final,
      Trace.Run (fun (connection : Streaming) call => some (connection.step call))
        (fun _ _ => True)
        (.new .stored
          (.new [.at 0 (.ping [7]), .at 1 (.close .normal [])] (List.replicate 5 (.ready (.ok ()))) 0)
          .plain)
        [(.pollNextFrame, .read (.ready (.ok (.ping [7])))),
          (.pollNextFrame, .read (.ready (.ok (.close .normal [])))),
          (.pollNextFrame, .read (.ready (.error .connectionClosed)))] final ∧
      final.handed = [.pong [7], .close .normal []] ∧
      ∃ taken close replied own,
        final.queued = pongs (arriving taken) ++ close ∧
        final.queued = replied ++ final.obligatedSends ∧ Interleaved replied own final.handed := by
  have run : ∃ final,
      Trace.Run (fun (connection : Streaming) call => some (connection.step call))
        (fun _ _ => True)
        (.new .stored
          (.new [.at 0 (.ping [7]), .at 1 (.close .normal [])] (List.replicate 5 (.ready (.ok ()))) 0)
          .plain)
        [(.pollNextFrame, .read (.ready (.ok (.ping [7])))),
          (.pollNextFrame, .read (.ready (.ok (.close .normal [])))),
          (.pollNextFrame, .read (.ready (.error .connectionClosed)))] final ∧
      final.handed = [.pong [7], .close .normal []] :=
    ⟨_, .of_exec [.pollNextFrame, .pollNextFrame, .pollNextFrame] rfl, by decide⟩
  obtain ⟨final, run, handed⟩ := run
  have healthy : (Framed.new [.at 0 (.ping [7]), .at 1 (.close .normal [])]
      (List.replicate 5 (.ready (.ok ()))) 0).Healthy := by
    intro reply member error
    rw [List.eq_of_mem_replicate member]
    simp
  obtain ⟨taken, close, replied, own, -, queued, -, owed, merged, -⟩ :=
    reply_discipline .stored .plain healthy run
  exact ⟨final, run, handed, taken, close, replied, own, queued, owed, merged⟩

end Yawc
