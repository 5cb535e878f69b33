import Yawc.Native.Reception
import Yawc.Codec.WireFrames

/-! Sizes and assembly of what a connection delivers, over every run. -/

namespace Yawc

namespace WebSocket

variable {self after : WebSocket} {bound : Nat}

/-- A round of an open reader takes at least one arrival up. -/
theorem pollStreaming_within {answer : Poll (Result Frame)}
    (polled : self.pollStreaming = (answer, after))
    (reading : self.streaming.readHalf.isClosed = false)
    (le : self.streaming.stream.incoming.length ≤ bound) :
    after.streaming.stream.incoming.length ≤ bound - 1 := by
  obtain ⟨streaming, rfl, read⟩ := pollStreaming_eq polled
  have step := self.streaming.pollNextFrameWithLimit_step self.fragmentLayer.remainingReadCapacity
  rw [read] at step
  generalize same : (answer, streaming) = result at step
  obtain ⟨rfl, rfl⟩ : result.1 = answer ∧ result.2 = streaming := by simp [← same]
  clear same
  cases step with
  | closed closed => simp [reading] at closed
  | @silent later _ takes =>
    have reader := (Streaming.silent_flushes { self.streaming with stream := later }
      (.inl rfl)).1.reader
    exact reader.stream.incoming ▸ takes.within le
  | @ended later _ takes =>
    have reader := (Streaming.silent_flushes
      { self.streaming with
        stream := later
        readHalf := { self.streaming.readHalf with isClosed := true } } (.inr rfl)).1.reader
    exact reader.stream.incoming ▸ takes.within le
  | failed _ takes _ => exact takes.within le
  | accepted _ takes taken => exact Streaming.onFrame_stream taken ▸ takes.within le
  | refused _ takes taken _ =>
    have stream := Streaming.onFrame_stream taken
    exact (show _ = _ from stream) ▸ takes.within le

private theorem Rounds.within {result : Poll (Result Frame) × WebSocket}
    (rounds : Rounds self result)
    (reading : self.streaming.readHalf.isClosed = false)
    (le : self.streaming.stream.incoming.length ≤ bound) :
    result.2.streaming.stream.incoming.length ≤ bound - 1 := by
  have frame {middle after : WebSocket} {frame : Frame} {assembled : Result (Option Frame)}
      (polled : self.pollStreaming = (.ready (.ok frame), middle))
      (taken : middle.onFrame frame = (assembled, after)) :
      after.streaming.stream.incoming.length ≤ bound - 1 := by
    have same := middle.onFrame_streaming frame
    rw [taken] at same
    exact (show after.streaming = _ from same) ▸ pollStreaming_within polled reading le
  cases rounds with
  | stop polled _ => exact pollStreaming_within polled reading le
  | refuse polled taken => exact frame polled taken
  | deliver polled taken => exact frame polled taken
  | again polled taken rest =>
    exact Nat.le_trans rest.kept.2.incoming.length_le (frame polled taken)

/-- With as many reads as arrivals everything is read, unless the reader was
closed. -/
theorem run_within {trace : List (Call × Answer)} {final : WebSocket}
    (run : Trace.Run WebSocket.step (fun _ _ => True) self trace final)
    (start : self.streaming.readHalf.isClosed ∨
      self.streaming.stream.incoming.length ≤ bound) :
    final.streaming.readHalf.isClosed ∨
      final.streaming.stream.incoming.length ≤ bound - reads (trace.map Prod.fst) := by
  induction run generalizing bound with
  | nil => simpa [reads] using start
  | @cons state call answer middle trace final _ taken _ ih =>
    have count : bound - reads [call] - reads (trace.map Prod.fst) =
        bound - reads (call :: trace.map Prod.fst) := by
      simp only [reads, List.count_cons, List.count_nil]
      omega
    rw [List.map_cons, ← count]
    apply ih
    by_cases reading : call = .pollNextFrame
    · subst reading
      simp only [step, Option.some.injEq, Prod.mk.injEq] at taken
      obtain ⟨-, rfl⟩ := taken
      cases closed : state.streaming.readHalf.isClosed with
      | true => exact .inl ((pollNextFrame_closed closed).1.readHalf ▸ closed)
      | false =>
        have le : state.streaming.stream.incoming.length ≤ bound := by simpa [closed] using start
        exact .inr (by simpa [reads] using state.pollNextFrame_rounds.within closed le)
    · have writes := step_writes reading taken
      rw [writes.reader.readHalf, writes.reader.stream.incoming]
      simpa [reads, reading] using start

end WebSocket

namespace Reception

variable {limits : Limits} {r : Reception}

/-- Nothing is received once the reading has ended. -/
theorem foldl_closed (closed : r.closed) (arrivals : List Arrival) :
    arrivals.foldl (receive limits) r = r := by
  induction arrivals with
  | nil => rfl
  | cons arrival arrivals ih =>
    have nothing : r.receive limits arrival = r := by simp [receive, closed]
    rw [List.foldl_cons, nothing, ih]

/-- What the reference has come to behind the arrivals. -/
def behind (limits : Limits) (arrivals : List Arrival) : Reception :=
  arrivals.foldl (receive limits) new

theorem behind_snoc (arrivals : List Arrival) (arrival : Arrival) :
    behind limits (arrivals ++ [arrival]) = (behind limits arrivals).receive limits arrival := by
  simp [behind]

end Reception

section Sizes

/-- What the decoder makes of a data frame, by its limit. -/
def Frame.arrives (frame : Frame) (maxPayloadSize : Nat) : Result Frame :=
  if maxPayloadSize ≤ frame.payload.length then .error .frameTooLarge else .ok frame

/-- How much has been sent of the message that is open behind the frames. -/
def openLength (frames : List Frame) : Nat :=
  frames.foldl (fun length frame =>
    if frame.opcode.isControl then length
    else if frame.fin then 0
    else if frame.opcode = .continuation then length + frame.payload.length
    else frame.payload.length) 0

/-- Behind the header checks only a missing key is an error. -/
theorem Decoder.complete_refuses {cpu : Cpu} {self : Decoder} {header : Header} {src : Bytes}
    {error : WebSocketError} (refused : (self.complete cpu header src).1 = .error error) :
    error = .invalidFragment := by
  by_cases missing : src.length < header.payloadLen
  · simp [complete, missing] at refused
  · rw [complete_whole cpu self header src (Nat.le_of_not_lt missing)] at refused
    split at refused
    · simp at refused
    · simpa [eq_comm] using refused

/-- A data frame is too large for the decoder exactly if its header says so,
whether or not its payload has arrived. -/
theorem Decoder.decode_tooLarge_iff (cpu : Cpu) (role : Role) (maxPayloadSize : UInt64)
    {src body : Bytes} {header : Header} (parsed : parseHeader src = .ok (some (header, body)))
    (data : header.opcode.isControl = false) :
    ((new role maxPayloadSize).decode cpu src).1 = .error .frameTooLarge ↔
      maxPayloadSize.toNat ≤ header.payloadLen := by
  have ping : header.opcode ≠ .ping := fun ping => by simp [ping, OpCode.isControl] at data
  have idle : (new role maxPayloadSize).state = none := rfl
  have limit : (new role maxPayloadSize).maxPayloadSize = maxPayloadSize := rfl
  by_cases large : maxPayloadSize.toNat ≤ header.payloadLen
  · have refused : (new role maxPayloadSize).validate header = .error .frameTooLarge := by
      simp [validate, data, ping, limit, large]
    simp [decode, idle, parsed, refused, large]
  · have passed : (new role maxPayloadSize).validate header = .ok () := by
      simp [validate, data, ping, limit, large]
    have call : (new role maxPayloadSize).decode cpu src =
        (new role maxPayloadSize).complete cpu header body := by
      simp [decode, idle, parsed, passed]
    rw [call]
    simp only [large, iff_false]
    intro refused
    simpa using complete_refuses refused

namespace Reception

variable {limits : Limits} {r : Reception}

private theorem closed_receive (closed : r.closed) (arrival : Arrival) :
    (r.receive limits arrival).closed := by
  simp [receive, closed]

theorem answers_receive (r : Reception) (arrival : Arrival) :
    r.answers <+: (r.receive limits arrival).answers := by
  unfold receive
  split
  · exact List.prefix_rfl
  · split
    · exact List.prefix_rfl
    · exact List.prefix_rfl
    · split
      · exact List.prefix_rfl
      · exact List.prefix_append _ _
    · unfold onFrame
      split
      · split <;> exact List.prefix_append _ _
      · split
        · exact List.prefix_append _ _
        · unfold Reception.onData
          split
          · exact List.prefix_append _ _
          · split <;> exact List.prefix_append _ _

/-- One more data frame that is not refused. -/
theorem buffered_onData {frame : Frame} {now : Nat} (data : frame.opcode.isControl = false)
    (reading : (r.onData limits frame now).closed = false)
    (fine : ∀ answer ∈ (r.onData limits frame now).answers, ∃ message, answer = .ok message) :
    buffered (r.onData limits frame now).opened =
      if frame.fin then 0
      else if frame.opcode = .continuation then buffered r.opened + frame.payload.length
      else frame.payload.length := by
  have refused {error : WebSocketError}
      (found : .error error ∈ (r.onData limits frame now).answers) : False := by
    obtain ⟨message, same⟩ := fine _ found
    simp at same
  by_cases exceeds : limits.Exceeds r.opened frame
  · rw [onData_exceeds exceeds] at reading
    simp [refuse] at reading
  by_cases expired : limits.Expired r.opened frame now
  · exact (@refused .fragmentTimeout
      (by simp [onData_expired exceeds expired, answer])).elim
  by_cases belongs : frame.opcode = .continuation ↔ (r.opened.map Prod.snd).isSome
  · cases fin : frame.fin with
    | true =>
      rw [onData_assemble exceeds expired (assemble_last data belongs fin)]
      simp [buffered]
    | false =>
      rw [onData_assemble exceeds expired (assemble_more data belongs fin)]
      cases opened : r.opened with
      | none =>
        have other : frame.opcode ≠ .continuation := by simp [belongs, opened]
        simp [buffered, joined, other]
      | some message =>
        have continues : frame.opcode = .continuation := belongs.mpr (by simp [opened])
        simp [buffered, joined, continues]
  · exact (@refused .invalidFragment
      (by simp [onData_assemble exceeds expired (assemble_stray data belongs)])).elim

/-- As long as nothing is refused, the open message is as long as its frames
say. -/
theorem buffered_behind (arrivals : List Arrival)
    (reading : (behind limits arrivals).closed = false)
    (fine : ∀ answer ∈ (behind limits arrivals).answers, ∃ message, answer = .ok message) :
    buffered (behind limits arrivals).opened = openLength (arriving arrivals) := by
  induction arrivals using List.reverseRecOn with
  | nil => rfl
  | append_singleton arrivals arrival ih =>
    rw [behind_snoc] at reading fine ⊢
    have before : (behind limits arrivals).closed = false := by
      by_contra closed
      simp [closed_receive (by simpa using closed)] at reading
    have earlier := ih before fun answer member =>
      fine answer ((answers_receive _ _).subset member)
    have arrived : arriving (arrivals ++ [arrival]) = arriving arrivals ++ arriving [arrival] := by
      simp [arriving]
    rw [arrived, openLength, List.foldl_append, ← openLength, ← earlier]
    rcases item : arrival.item with (_ | error | frame) | _
    · simp [receive, before, item] at reading
    · cases io : error.isIo <;> simp [receive, before, item, io, refuse] at reading
    · have next : arriving [arrival] = [frame] := by simp [arriving, item]
      rw [next, List.foldl_cons, List.foldl_nil]
      by_cases close : frame.opcode = .close
      · rw [receive_close before item close] at reading
        split at reading <;> simp [refuse] at reading
      · cases control : frame.opcode.isControl with
        | true =>
          rw [receive_control before item control close]
          rfl
        | false =>
          rw [receive_data before item control] at reading fine ⊢
          rw [buffered_onData (by exact control) reading fine]
          rfl
    · have none : arriving [arrival] = [] := by simp [arriving, item]
      simp [receive, before, item, none]

private theorem assemble_notLarge (checkUtf8 : Bool) (opened : Option (OpCode × Bytes))
    (frame : Frame) :
    (assemble checkUtf8 opened frame).1 ≠ some (.error .frameTooLarge) := by
  unfold assemble
  split
  · simp
  · split
    · simp
    · dsimp only
      split
      · simp
      · split <;> simp

/-- A data frame is refused for its size exactly if it reaches a limit, be it
by the decoder or behind it. -/
theorem receive_tooLarge_iff {frame : Frame} {arrival : Arrival} (reading : r.closed = false)
    (data : frame.opcode.isControl = false)
    (item : arrival.item = .ready (some (frame.arrives limits.maxPayloadRead))) :
    ∃ said, (r.receive limits arrival).answers = r.answers ++ said.toList ∧
      (said = some (.error .frameTooLarge) ↔ limits.Exceeds r.opened frame) := by
  by_cases large : limits.maxPayloadRead ≤ frame.payload.length
  · rw [Frame.arrives, if_pos large] at item
    refine ⟨some (.error .frameTooLarge), ?_, by simp [Limits.Exceeds, large]⟩
    simp [receive, reading, item, WebSocketError.isIo, refuse, answer]
  · rw [Frame.arrives, if_neg large] at item
    rw [receive_data reading item data]
    have same : limits.Exceeds r.opened frame ↔
        limits.Exceeds r.opened { frame with mask := none } := Iff.rfl
    rw [same]
    by_cases exceeds : limits.Exceeds r.opened { frame with mask := none }
    · refine ⟨some (.error .frameTooLarge), ?_, by simp [exceeds]⟩
      rw [onData_exceeds exceeds]
      rfl
    · simp only [exceeds, iff_false]
      by_cases expired : limits.Expired r.opened { frame with mask := none } arrival.time
      · refine ⟨some (.error .fragmentTimeout), ?_, by simp⟩
        rw [onData_expired exceeds expired]
        rfl
      · have notLarge := assemble_notLarge limits.checkUtf8 (r.opened.map Prod.snd)
          { frame with mask := none }
        rcases result : assemble limits.checkUtf8 (r.opened.map Prod.snd)
          { frame with mask := none } with ⟨said, opened⟩
        rw [result] at notLarge
        refine ⟨said, ?_, notLarge⟩
        rw [onData_assemble exceeds expired result]

end Reception

/-- Of the data frames read while nothing is refused, exactly those are too
large whose payload reaches the limit on payloads or, if they are fragments,
whose message reaches the limit on the buffer. -/
def Limits.RefusesExactly (limits : Limits) (consumed : List Arrival) : Prop :=
  ∀ before arrival later (frame : Frame), consumed = before ++ arrival :: later →
    arrival.item = .ready (some (frame.arrives limits.maxPayloadRead)) →
    frame.opcode.isControl = false →
    (Reception.behind limits before).closed = false →
    (∀ answer ∈ (Reception.behind limits before).answers, ∃ message, answer = .ok message) →
    ∃ said, (Reception.behind limits (before ++ [arrival])).answers =
        (Reception.behind limits before).answers ++ said.toList ∧
      (said = some (.error .frameTooLarge) ↔
        limits.maxPayloadRead ≤ frame.payload.length ∨
        frame.isFragment ∧
          limits.maxReadBuffer ≤ openLength (arriving before) + frame.payload.length)

private theorem Limits.refusesExactly (limits : Limits) (consumed : List Arrival) :
    limits.RefusesExactly consumed := by
  intro before arrival later frame _ item data reading fine
  rw [Reception.behind_snoc]
  have refused := Reception.receive_tooLarge_iff reading data item
  rwa [Limits.Exceeds, Reception.buffered_behind before reading fine] at refused

variable (flate : Flate) (opts : Negotiation)

/-- The limits in the settings hold over every run, whatever arrives and
whatever the inflater puts out: for what is buffered, for what the next read
delivers, and, where frames are not compressed, exactly so for what is refused. -/
theorem size_limits {incoming : List Arrival} {replies : List Reply} {clock : Nat}
    {trace : List (Call × Answer)} {ws : WebSocket}
    (byIo : ∀ error, .ready (.error error) ∈ replies → error.isIo)
    (run : Trace.Run WebSocket.step (fun _ _ => True)
      (.new flate (.new incoming replies clock) opts) trace ws) :
    (∀ fragment, ws.fragmentLayer.incomingFragment = some fragment →
      ws.fragmentLayer.incomingBuffer.length = fragment.bytesRead ∧
        fragment.bytesRead < opts.maxReadBuffer.toNat) ∧
    (∀ message next, ws.pollNextFrame = (.ready (.ok message), next) →
      ∃ skipped arrival raw,
        ws.streaming.stream.incoming = skipped ++ arrival :: next.streaming.stream.incoming ∧
        arrival.item = .ready (some (.ok raw)) ∧
        (raw.opcode = .text ∨ raw.opcode = .binary →
          message.payload.length < opts.maxPayloadRead.toNat) ∧
        (raw.opcode = .continuation → message.payload.length < opts.maxReadBuffer.toNat)) ∧
    (∀ next, ws.pollNextFrame = (.ready (.error .frameTooLarge), next) →
      ∃ earlier close, next.streaming.queued = earlier ++ [close] ∧ close.opcode = .close ∧
        close.closeCode = some .size) ∧
    (∀ cpu role src header body, parseHeader src = .ok (some (header, body)) →
      header.opcode.isControl = false →
      (((Decoder.new role opts.maxPayloadRead).decode cpu src).1 = .error .frameTooLarge ↔
        opts.maxPayloadRead.toNat ≤ header.payloadLen)) ∧
    ((∀ frame ∈ arriving incoming, frame.isCompressed = false) →
      ∃ consumed, incoming = consumed ++ ws.streaming.stream.incoming ∧
        trace.filterMap (·.2.verdict) = (Reception.behind opts.limits consumed).answers ∧
        opts.limits.RefusesExactly consumed) := by
  obtain ⟨bounded, same, answers⟩ : ws.fragmentLayer.Bounded ∧ ws.limits = opts.limits ∧
      ws.streaming.stream.FailsByIo := by
    refine run.keeps (motive := fun ws => ws.fragmentLayer.Bounded ∧ ws.limits = opts.limits ∧
      ws.streaming.stream.FailsByIo) ?_ ⟨WebSocket.new_bounded flate _ opts, rfl, byIo⟩
    rintro state call answer next - taken ⟨bounded, same, sink⟩
    obtain ⟨kept, settings, fewer⟩ := WebSocket.step_bounded bounded taken
    exact ⟨kept, settings.trans same, fun error member => sink error (fewer.subset member)⟩
  have readBuffer : ws.fragmentLayer.maxReadBuffer = opts.maxReadBuffer.toNat :=
    congrArg Limits.maxReadBuffer same
  have sized := WebSocket.pollNextFrame_sized bounded
  refine ⟨?_, ?_, ?_, ?_, ?_⟩
  · intro fragment found
    rw [← readBuffer]
    exact bounded fragment found
  · intro message next read
    rw [read] at sized
    obtain ⟨skipped, arrival, raw, split, item, passes⟩ := sized.delivered message rfl
    rw [same] at passes
    exact ⟨skipped, arrival, raw, split, item, passes.whole, passes.assembled⟩
  · intro next read
    rw [read] at sized
    obtain ⟨earlier, queued⟩ := sized.refused answers rfl
    exact ⟨earlier, _, queued, rfl, closeFor_closeCode .frameTooLarge⟩
  · intro cpu role src header body parsed data
    exact Decoder.decode_tooLarge_iff cpu role opts.maxPayloadRead parsed data
  · intro plain
    obtain ⟨consumed, split, -, said⟩ :=
      (Reception.Matches.new flate opts clock plain byIo).run run
    exact ⟨consumed, split, by simpa [Reception.behind, Reception.new] using said.symm,
      opts.limits.refusesExactly consumed⟩

/-- A second fragment that fills the buffer to its limit is refused. -/
theorem size_limits_fragment :
    ∃ ws consumed, Trace.Run WebSocket.step (fun _ _ => True)
        (.new .stored
          (.new [.at 0 ((Frame.text [104, 101, 121]).withFin false),
            .at 0 (.continuation [33, 33])] [] 0)
          { Negotiation.plain with maxPayloadRead := 4, maxReadBuffer := 5 })
        [(.pollNextFrame, .read (.ready (.error .frameTooLarge)))] ws ∧
      [.at 0 ((Frame.text [104, 101, 121]).withFin false), .at 0 (.continuation [33, 33])] =
        consumed ++ ws.streaming.stream.incoming ∧
      [.error .frameTooLarge] = (Reception.behind ⟨4, 5, none, false⟩ consumed).answers ∧
      Limits.RefusesExactly ⟨4, 5, none, false⟩ consumed := by
  obtain ⟨ws, run⟩ : ∃ ws, Trace.Run WebSocket.step (fun _ _ => True)
      (.new .stored
        (.new [.at 0 ((Frame.text [104, 101, 121]).withFin false),
          .at 0 (.continuation [33, 33])] [] 0)
        { Negotiation.plain with maxPayloadRead := 4, maxReadBuffer := 5 })
      [(.pollNextFrame, .read (.ready (.error .frameTooLarge)))] ws :=
    ⟨_, .of_exec [.pollNextFrame] rfl⟩
  obtain ⟨-, -, -, -, refused⟩ := size_limits .stored
    { Negotiation.plain with maxPayloadRead := 4, maxReadBuffer := 5 } (by simp) run
  obtain ⟨consumed, split, said, exactly⟩ := refused (by decide)
  exact ⟨ws, consumed, run, split, said, exactly⟩

end Sizes

section Assembly

/-- What assembly answers to frames, one after the other. -/
def assembleAll (checkUtf8 : Bool) : Option (OpCode × Bytes) → List Frame → List (Result Frame)
  | _, [] => []
  | opened, frame :: rest =>
    let (result, opened) := assemble checkUtf8 opened frame
    result.toList ++ assembleAll checkUtf8 opened rest

/-- What a receiver answers: the frames in front of the first Close are
assembled, the Close is delivered or refused, and nothing is read behind it. -/
def assembled (checkUtf8 : Bool) (opened : Option (OpCode × Bytes)) (frames : List Frame) :
    List (Result Frame) :=
  assembleAll checkUtf8 opened (frames.takeWhile (·.opcode ≠ .close)) ++
    ((frames.find? (·.opcode = .close)).map fun close =>
      (Streaming.checkClose close).map fun _ => close).toList

/-- No frame in front of a Close reaches a limit or comes too late. -/
def Limits.Permits (limits : Limits) : Option (Nat × OpCode × Bytes) → List Arrival → Prop
  | _, [] => True
  | opened, arrival :: rest =>
    match arrival.item with
    | .ready (some (.ok frame)) =>
      frame.opcode ≠ .close →
        if frame.opcode.isControl then limits.Permits opened rest
        else
          ¬ limits.Exceeds opened frame ∧ ¬ limits.Expired opened frame arrival.time ∧
            limits.Permits
              ((assemble limits.checkUtf8 (opened.map Prod.snd)
                { frame with mask := none }).2.map fun message =>
                  ((opened.map Prod.fst).getD arrival.time, message)) rest
    | _ => limits.Permits opened rest

/-- The frames that arrive, as the connection sees them. -/
def unmasked (arrivals : List Arrival) : List Frame :=
  (arriving arrivals).map fun frame => { frame with mask := none }

private theorem assembled_close {checkUtf8 : Bool} {opened : Option (OpCode × Bytes)}
    {frame : Frame}
    (close : frame.opcode = .close) (rest : List Frame) :
    assembled checkUtf8 opened (frame :: rest) =
      [(Streaming.checkClose frame).map fun _ => frame] := by
  simp [assembled, close, assembleAll]

private theorem assembled_cons {checkUtf8 : Bool} {opened : Option (OpCode × Bytes)} {frame : Frame}
    (other : frame.opcode ≠ .close) (rest : List Frame) :
    assembled checkUtf8 opened (frame :: rest) =
      (assemble checkUtf8 opened frame).1.toList ++
        assembled checkUtf8 (assemble checkUtf8 opened frame).2 rest := by
  simp [assembled, other, assembleAll]

private theorem Limits.Permits.front {limits : Limits} {opened : Option (Nat × OpCode × Bytes)}
    {front back : List Arrival} (permits : limits.Permits opened (front ++ back)) :
    limits.Permits opened front := by
  induction front generalizing opened with
  | nil => trivial
  | cons arrival front ih =>
    rw [List.cons_append, Limits.Permits] at permits
    rw [Limits.Permits]
    split at permits
    · intro other
      have further := permits other
      split at further
      · rename_i control
        rw [if_pos control]
        exact ih further
      · rename_i data
        rw [if_neg data]
        exact ⟨further.1, further.2.1, ih further.2.2⟩
    · exact ih permits

/-- Within the limits and in time, the reference only assembles. -/
theorem Reception.answers_assembled {limits : Limits} {r : Reception} {arrivals : List Arrival}
    (frames : OnlyFrames arrivals) (reading : r.closed = false)
    (permits : limits.Permits r.opened arrivals) :
    (arrivals.foldl (receive limits) r).answers =
      r.answers ++ assembled limits.checkUtf8 (r.opened.map Prod.snd) (unmasked arrivals) := by
  induction arrivals generalizing r with
  | nil => simp [unmasked, arriving, assembled, assembleAll]
  | cons arrival arrivals ih =>
    have later : OnlyFrames arrivals := fun other member => frames other (by simp [member])
    rw [List.foldl_cons]
    rcases frames arrival (by simp) with pending | ⟨frame, item⟩
    · have skipped : unmasked (arrival :: arrivals) = unmasked arrivals := by
        simp [unmasked, arriving, pending]
      rw [Limits.Permits, pending] at permits
      have same : r.receive limits arrival = r := by simp [receive, pending]
      rw [same, skipped]
      exact ih later reading permits
    · have next : unmasked (arrival :: arrivals) =
          { frame with mask := none } :: unmasked arrivals := by
        simp [unmasked, arriving, item]
      rw [Limits.Permits, item] at permits
      rw [next]
      by_cases close : frame.opcode = .close
      · rw [assembled_close (by exact close), receive_close reading item close]
        cases checked : Streaming.checkClose { frame with mask := none } with
        | ok _ =>
          rw [foldl_closed rfl]
          rfl
        | error error =>
          rw [foldl_closed rfl]
          rfl
      · have further := permits close
        rw [assembled_cons (by exact close)]
        cases control : frame.opcode.isControl with
        | true =>
          rw [if_pos control] at further
          have passes : assemble limits.checkUtf8 (r.opened.map Prod.snd)
              { frame with mask := none } =
                (some (.ok { frame with mask := none }), r.opened.map Prod.snd) := by
            simp [assemble, control]
          have rest := @ih (r.answer (.ok { frame with mask := none })) later reading further
          rw [receive_control reading item control close, passes, rest]
          simp [answer]
        | false =>
          rw [if_neg (by simp [control])] at further
          obtain ⟨fits, timely, permits⟩ := further
          have within : ¬ limits.Exceeds r.opened { frame with mask := none } := fits
          have inTime : ¬ limits.Expired r.opened { frame with mask := none } arrival.time := timely
          rw [receive_data reading item control]
          rcases result : assemble limits.checkUtf8 (r.opened.map Prod.snd)
            { frame with mask := none } with ⟨said, opened⟩
          rw [result] at permits
          have rest := @ih { r with
            opened := opened.map fun message =>
              ((r.opened.map Prod.fst).getD arrival.time, message)
            answers := r.answers ++ said.toList } later reading permits
          rw [onData_assemble within inTime result, rest, List.append_assoc]
          simp [Option.map_map, Function.comp_def]

variable (flate : Flate) (opts : Negotiation)

/-- With as many reads as arrivals, the answers are those of the reference to all that
arrives. -/
theorem verdicts_receive {incoming : List Arrival} {replies : List Reply} {clock : Nat}
    {trace : List (Call × Answer)} {ws : WebSocket}
    (plain : ∀ frame ∈ arriving incoming, frame.isCompressed = false)
    (byIo : ∀ error, .ready (.error error) ∈ replies → error.isIo)
    (run : Trace.Run WebSocket.step (fun _ _ => True)
      (.new flate (.new incoming replies clock) opts) trace ws)
    (enough : incoming.length ≤ reads (trace.map Prod.fst)) :
    trace.filterMap (·.2.verdict) =
      (incoming.foldl (Reception.receive opts.limits) .new).answers := by
  obtain ⟨consumed, split, matched, said⟩ :=
    (Reception.Matches.new flate opts clock plain byIo).run run
  change incoming = consumed ++ ws.streaming.stream.incoming at split
  refine Eq.trans said.symm ?_
  rcases WebSocket.run_within run (.inr (Nat.le_refl _)) with closed | short
  · -- Nothing is read behind a Close, and the reference does not go on either.
    rw [matched.closed] at closed
    rw [split, List.foldl_append, Reception.foldl_closed closed]
  · have rest : ws.streaming.stream.incoming = [] := by
      apply List.eq_nil_of_length_eq_zero
      have none : incoming.length - reads (trace.map Prod.fst) = 0 := Nat.sub_eq_zero_of_le enough
      exact Nat.le_zero.mp (none ▸ short)
    rw [rest, List.append_nil] at split
    rw [split]

/-- Over every run the answers to frames that are not compressed are those of
assembly to what has been read, and with as many reads as arrivals to all of it. -/
theorem messages_assembled {incoming : List Arrival} {replies : List Reply} {clock : Nat}
    {trace : List (Call × Answer)} {ws : WebSocket}
    (frames : OnlyFrames incoming)
    (plain : ∀ frame ∈ arriving incoming, frame.isCompressed = false)
    (byIo : ∀ error, .ready (.error error) ∈ replies → error.isIo)
    (permits : opts.limits.Permits none incoming)
    (run : Trace.Run WebSocket.step (fun _ _ => True)
      (.new flate (.new incoming replies clock) opts) trace ws) :
    (∃ consumed, incoming = consumed ++ ws.streaming.stream.incoming ∧
      trace.filterMap (·.2.verdict) = assembled opts.utf8 none (unmasked consumed)) ∧
    (incoming.length ≤ reads (trace.map Prod.fst) →
      trace.filterMap (·.2.verdict) = assembled opts.utf8 none (unmasked incoming)) := by
  obtain ⟨consumed, split, -, said⟩ :=
    (Reception.Matches.new flate opts clock plain byIo).run run
  change incoming = consumed ++ ws.streaming.stream.incoming at split
  have whole := Reception.answers_assembled (r := .new) frames rfl permits
  have front : OnlyFrames consumed := fun arrival member =>
    frames arrival (split ▸ List.mem_append_left _ member)
  have permitted : opts.limits.Permits none consumed := by
    rw [split] at permits
    exact permits.front
  have part := Reception.answers_assembled (r := .new) front rfl permitted
  have verdicts : trace.filterMap (·.2.verdict) = _ := said.symm
  exact ⟨⟨consumed, split, verdicts.trans part⟩, fun enough =>
    (verdicts_receive flate opts plain byIo run enough).trans whole⟩

/-- A character cut in two by a Ping, a fragment that continues nothing, and a
text that is not valid. -/
theorem messages_assembled_split :
    ∃ ws, Trace.Run WebSocket.step (fun _ _ => True)
        (.new .stored
          (.new [.at 0 ((Frame.text [0xC3]).withFin false), .at 1 (.ping []),
            .at 2 (.continuation [0xA9]), .at 3 (.continuation []), .at 4 (.text [0xA9])] [] 0)
          { Negotiation.plain with utf8 := true })
        [(.pollNextFrame, .read (.ready (.ok (.ping [])))),
          (.pollNextFrame, .read (.ready (.ok (.text [0xC3, 0xA9])))),
          (.pollNextFrame, .read (.ready (.error .invalidFragment))),
          (.pollNextFrame, .read (.ready (.error .invalidUTF8))), (.pollNextFrame, .read .pending)]
        ws ∧
      [.ok (.ping []), .ok (.text [0xC3, 0xA9]), .error .invalidFragment, .error .invalidUTF8] =
        assembled true none [(Frame.text [0xC3]).withFin false, .ping [], .continuation [0xA9],
          .continuation [], .text [0xA9]] := by
  obtain ⟨ws, run⟩ : ∃ ws, Trace.Run WebSocket.step (fun _ _ => True)
      (.new .stored
        (.new [.at 0 ((Frame.text [0xC3]).withFin false), .at 1 (.ping []),
          .at 2 (.continuation [0xA9]), .at 3 (.continuation []), .at 4 (.text [0xA9])] [] 0)
        { Negotiation.plain with utf8 := true })
      [(.pollNextFrame, .read (.ready (.ok (.ping [])))),
        (.pollNextFrame, .read (.ready (.ok (.text [0xC3, 0xA9])))),
        (.pollNextFrame, .read (.ready (.error .invalidFragment))),
        (.pollNextFrame, .read (.ready (.error .invalidUTF8))), (.pollNextFrame, .read .pending)]
      ws :=
    ⟨_, .of_exec (List.replicate 5 .pollNextFrame) rfl⟩
  have valid : fromUtf8 [0xC3, 0xA9] := by decide
  have answers := messages_assembled .stored { Negotiation.plain with utf8 := true }
    (by simp [OnlyFrames, Arrival.at]) (by decide) (by simp) (by
      simp [Limits.Permits, Arrival.at, Frame.text, Frame.continuation, Frame.ping, Frame.new,
        Frame.withFin, OpCode.isControl, Limits.Exceeds, Limits.Expired, buffered, assemble, joined,
        Frame.isFragment, Negotiation.limits, Negotiation.plain, valid]) run
  exact ⟨ws, run, answers.2 (by decide)⟩

/-- Behind a Close nothing is delivered, and a Close that is not valid is
refused. -/
theorem frames_behind_close :
    (Negotiation.plain.limits.Permits none [.at 0 (.close .normal []), .at 1 (.ping [])] ∧
      ∃ ws, Trace.Run WebSocket.step (fun _ _ => True)
          (.new .stored (.new [.at 0 (.close .normal []), .at 1 (.ping [])] [] 0) .plain)
          [(.pollNextFrame, .read (.ready (.ok (.close .normal [])))),
            (.pollNextFrame, .read .pending)] ws ∧
        [.ok (.close .normal [])] ≠ assembleAll false none [.close .normal [], .ping []]) ∧
    (Negotiation.plain.limits.Permits none [.at 0 (.closeRaw [1])] ∧
      ∃ ws, Trace.Run WebSocket.step (fun _ _ => True)
          (.new .stored (.new [.at 0 (.closeRaw [1])] [] 0) .plain)
          [(.pollNextFrame, .read (.ready (.error .invalidCloseFrame)))] ws ∧
        [.error .invalidCloseFrame] ≠ assembleAll false none [.closeRaw [1]]) := by
  refine ⟨⟨?_, _, .of_exec [.pollNextFrame, .pollNextFrame] rfl, by decide⟩,
    ⟨?_, _, .of_exec [.pollNextFrame] rfl, by decide⟩⟩
  · simp [Limits.Permits, Arrival.at, Frame.close, Frame.closeRaw, Frame.new]
  · simp [Limits.Permits, Arrival.at, Frame.closeRaw, Frame.new]

end Assembly

end Yawc
