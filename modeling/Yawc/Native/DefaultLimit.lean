import Yawc.Native.Messages

/-! The reassembly limit that follows from the limit on payloads: whether a message
that is accepted in one frame is accepted in fragments. -/

namespace Yawc

/-- The frames carry the message to its end, in any number of fragments and with
control frames in between, before any Close. -/
structure SplitInto (message : Frame) (frames : List Frame) : Prop where
  carries : Carries none [message] frames
  complete : finished frames = 1
  plain : ∀ frame ∈ frames, frame.isCompressed = false

/-- What a message is delivered as. -/
def Frame.whole (message : Frame) : Frame := .new true message.opcode none message.payload

/-- The message is delivered, whatever the transport's sink does and whatever else is
called, once there were as many reads as arrivals. -/
def Negotiation.Accepts (opts : Negotiation) (flate : Flate) (incoming : List Arrival)
    (message : Frame) : Prop :=
  ∀ replies clock trace ws, (∀ error, .ready (.error error) ∈ replies → error.isIo) →
    Trace.Run WebSocket.step (fun _ _ => True) (.new flate (.new incoming replies clock) opts)
      trace ws →
    incoming.length ≤ reads (trace.map Prod.fst) → .ok message.whole ∈ trace.filterMap (·.2.verdict)

section Late

variable {limits : Limits} {r : Reception} {message : Frame}

/-- Frames that neither begin a message nor end it: nothing is open that they could
continue. -/
def Stray (frames : List Frame) : Prop :=
  ∀ frame ∈ frames, frame.opcode.isControl ∨ frame.opcode = .continuation

private theorem Carries.stray {opened : Option (OpCode × Bytes)} {messages frames : List Frame}
    (carries : Carries opened messages frames)
    (single : messages = [] ∨ opened.isSome ∧ ∃ message, messages = [message]) : Stray frames := by
  induction carries with
  | done => simp [Stray]
  | control control later ih =>
    intro frame member
    rcases List.mem_cons.mp member with rfl | behind
    · exact .inl control
    · exact ih single frame behind
  | last part fin complete later ih =>
    obtain ⟨open_, one⟩ : _ ∧ _ := by simpa using single
    intro frame member
    rcases List.mem_cons.mp member with rfl | behind
    · exact .inr (part.continues.mpr open_)
    · exact ih (.inl one) frame behind
  | more part fin opcode payload later ih =>
    obtain ⟨open_, one⟩ : _ ∧ _ := by simpa using single
    intro frame member
    rcases List.mem_cons.mp member with rfl | behind
    · exact .inr (part.continues.mpr open_)
    · exact ih (.inr ⟨rfl, _, by rw [one]⟩) frame behind

/-- A message is data, which no control frame is. -/
structure Frame.IsData (message : Frame) : Prop where
  kind : message.opcode = .text ∨ message.opcode = .binary
  whole : message.fin
  plain : message.isCompressed = false

theorem Frame.IsData.control_ne (data : message.IsData) {frame : Frame}
    (control : frame.opcode.isControl) : frame ≠ message.whole := by
  rintro rfl
  rcases data.kind with text | binary
  · simp [Frame.whole, Frame.new, text, OpCode.isControl] at control
  · simp [Frame.whole, Frame.new, binary, OpCode.isControl] at control

private theorem Reception.receive_stray (data : message.IsData) {arrival : Arrival}
    (item : arrival.item = .pending ∨ ∃ frame, arrival.item = .ready (some (.ok frame)) ∧
      (frame.opcode.isControl ∨ frame.opcode = .continuation))
    (idle : r.opened = none) (before : .ok message.whole ∉ r.answers) :
    (r.receive limits arrival).opened = none ∧
      .ok message.whole ∉ (r.receive limits arrival).answers := by
  cases reading : r.closed with
  | true =>
    have same : r.receive limits arrival = r := by simp [receive, reading]
    rw [same]
    exact ⟨idle, before⟩
  | false =>
    rcases item with pending | ⟨frame, item, kind⟩
    · have same : r.receive limits arrival = r := by simp [receive, pending]
      rw [same]
      exact ⟨idle, before⟩
    · by_cases control : frame.opcode.isControl
      · have other : message.whole ≠ { frame with mask := none } :=
          (data.control_ne (by exact control)).symm
        by_cases close : frame.opcode = .close
        · rw [receive_close reading item close]
          split
          · exact ⟨idle, by simp [answer, before, other]⟩
          · exact ⟨idle, by simp [refuse, answer, before]⟩
        · rw [receive_control reading item control close]
          exact ⟨idle, by simp [answer, before, other]⟩
      · have continues : frame.opcode = .continuation := kind.resolve_left control
        have data' : frame.opcode.isControl = false := by simpa using control
        rw [receive_data reading item data']
        by_cases exceeds : limits.Exceeds r.opened { frame with mask := none }
        · rw [onData_exceeds exceeds]
          exact ⟨idle, by simp [refuse, answer, before]⟩
        · have timely : ¬ limits.Expired r.opened { frame with mask := none } arrival.time := by
            simp [Limits.Expired, idle]
          have refused : assemble limits.checkUtf8 (r.opened.map Prod.snd)
              { frame with mask := none } = (some (.error .invalidFragment), none) := by
            rw [idle]
            exact assemble_stray (by exact data') (by simp [continues])
          rw [onData_assemble exceeds timely refused]
          exact ⟨rfl, by simp [before]⟩

private theorem Reception.stray_nothing (data : message.IsData) {arrivals : List Arrival}
    (frames : OnlyFrames arrivals) (stray : Stray (arriving arrivals)) (idle : r.opened = none)
    (before : .ok message.whole ∉ r.answers) :
    .ok message.whole ∉ (arrivals.foldl (receive limits) r).answers := by
  induction arrivals generalizing r with
  | nil => exact before
  | cons arrival arrivals ih =>
    have later : OnlyFrames arrivals := fun other member => frames other (by simp [member])
    have rest : Stray (arriving arrivals) := by
      intro frame member
      apply stray frame
      unfold arriving at member ⊢
      rw [List.filterMap_cons]
      split
      · exact member
      · exact List.mem_cons_of_mem _ member
    have item : arrival.item = .pending ∨ ∃ frame, arrival.item = .ready (some (.ok frame)) ∧
        (frame.opcode.isControl ∨ frame.opcode = .continuation) := by
      rcases frames arrival (by simp) with pending | ⟨frame, item⟩
      · exact .inl pending
      · exact .inr ⟨frame, item, stray frame (by simp [arriving, item])⟩
    obtain ⟨idle', before'⟩ := receive_stray data item idle before
    rw [List.foldl_cons]
    exact ih later rest idle' before'

private theorem Reception.mem_foldl {arrivals : List Arrival} {result : Result Frame}
    (before : result ∈ r.answers) : result ∈ (arrivals.foldl (receive limits) r).answers := by
  induction arrivals generalizing r with
  | nil => exact before
  | cons arrival arrivals ih =>
    rw [List.foldl_cons]
    exact ih ((answers_receive r arrival).subset before)

private theorem Timely.control_tail {arrivals : List Arrival} (frames : OnlyFrames arrivals)
    (carries : Carries none [] (arriving arrivals)) (timeout : Nat) (started : Option Nat) :
    Timely timeout started arrivals := by
  induction arrivals generalizing started with
  | nil => trivial
  | cons arrival arrivals ih =>
    have later : OnlyFrames arrivals := fun other member => frames other (by simp [member])
    rw [Timely]
    rcases frames arrival (by simp) with pending | ⟨frame, item⟩
    · rw [pending]
      simp only [arriving, List.filterMap_cons, pending] at carries
      exact ih later carries started
    · rw [item]
      simp only [arriving, List.filterMap_cons, item] at carries
      cases carries with
      | control control rest =>
        intro _
        rw [if_pos control]
        exact ih later rest started

namespace Limits

variable {opened : Option (Nat × OpCode × Bytes)} {frame : Frame} {now : Nat}

private theorem joined_length (opened : Option (Nat × OpCode × Bytes)) (frame : Frame) :
    (joined (opened.map Prod.snd) frame).2.length = buffered opened + frame.payload.length := by
  cases opened with
  | none => simp [joined, buffered]
  | some message => simp [joined, buffered]

private theorem not_exceeds (small : message.payload.length < limits.maxPayloadRead)
    (room : message.payload.length < limits.maxReadBuffer)
    (part : (joined (opened.map Prod.snd) frame).2.length ≤ message.payload.length) :
    ¬ limits.Exceeds opened frame := by
  rw [joined_length] at part
  unfold Exceeds
  omega

private theorem not_expired_iff (belongs : Belongs (opened.map Prod.snd) frame) :
    ¬ limits.Expired opened frame now ↔
      ∀ timeout, limits.fragmentTimeout = some timeout →
        now - (opened.map Prod.fst).getD now ≤ timeout := by
  cases opened with
  | none =>
    have starts : frame.opcode ≠ .continuation := fun continues => by
      simpa using belongs.continues.mp continues
    simp [Expired, starts]
  | some message =>
    have continues : frame.opcode = .continuation := belongs.continues.mpr rfl
    simp [Expired, continues]

end Limits

private theorem checkText_valid {checkUtf8 : Bool}
    (valid : message.opcode = .text → checkUtf8 → fromUtf8 message.payload) :
    checkText checkUtf8 (.ok (some message.whole)) = .ok (some message.whole) := by
  apply if_neg
  intro invalid
  exact invalid.2.2 (valid invalid.1 invalid.2.1)

private theorem Belongs.other {opened : Option (OpCode × Bytes)} {frame : Frame}
    (part : Belongs opened frame) : frame.opcode ≠ .close := by
  intro close
  simpa [close, OpCode.isControl] using part.data

theorem Belongs.unmasked {opened : Option (OpCode × Bytes)} {frame : Frame}
    (part : Belongs opened frame) : Belongs opened { frame with mask := none } :=
  ⟨part.data, part.plain, part.continues⟩

private theorem joined_unmasked (opened : Option (OpCode × Bytes)) (frame : Frame) :
    joined opened { frame with mask := none } = joined opened frame := by
  cases opened <;> rfl

private theorem Reception.part_iff (data : message.IsData) {arrival : Arrival} {frame : Frame}
    (reading : r.closed = false) (item : arrival.item = .ready (some (.ok frame)))
    (part : Belongs (r.opened.map Prod.snd) frame)
    (fits : ¬ limits.Exceeds r.opened { frame with mask := none })
    {arrivals : List Arrival} (later : OnlyFrames arrivals) (stray : Stray (arriving arrivals))
    (before : .ok message.whole ∉ r.answers) {tail : Nat → Prop}
    (follows : ¬ limits.Expired r.opened { frame with mask := none } arrival.time →
      (.ok message.whole ∈
          (arrivals.foldl (receive limits) (r.onData limits { frame with mask := none }
            arrival.time)).answers ↔
        ∀ timeout, limits.fragmentTimeout = some timeout → tail timeout)) :
    .ok message.whole ∈ (arrivals.foldl (receive limits) (r.receive limits arrival)).answers ↔
      ∀ timeout, limits.fragmentTimeout = some timeout →
        arrival.time - (r.opened.map Prod.fst).getD arrival.time ≤ timeout ∧ tail timeout := by
  have inTime : ¬ limits.Expired r.opened { frame with mask := none } arrival.time ↔ _ :=
    Limits.not_expired_iff part.unmasked
  rw [receive_data reading item part.data]
  by_cases late : limits.Expired r.opened { frame with mask := none } arrival.time
  · rw [onData_expired fits late]
    refine iff_of_false ?_ ?_
    · exact stray_nothing data later stray rfl (by simp [answer, before])
    · intro timely
      exact absurd late (inTime.mpr fun timeout set => (timely timeout set).1)
  · rw [follows late]
    constructor
    · intro timely timeout set
      exact ⟨inTime.mp late timeout set, timely timeout set⟩
    · intro timely timeout set
      exact (timely timeout set).2

/-- In the reference, a message within the limits is delivered exactly if its
fragments arrive in time. -/
theorem Reception.delivers_iff (data : message.IsData)
    (small : message.payload.length < limits.maxPayloadRead)
    (room : message.payload.length < limits.maxReadBuffer)
    (valid : message.opcode = .text → limits.checkUtf8 → fromUtf8 message.payload)
    {arrivals : List Arrival} (frames : OnlyFrames arrivals)
    (carries : Carries (r.opened.map Prod.snd) [message] (arriving arrivals))
    (complete : finished (arriving arrivals) = 1) (reading : r.closed = false)
    (before : .ok message.whole ∉ r.answers) :
    .ok message.whole ∈ (arrivals.foldl (receive limits) r).answers ↔
      ∀ timeout, limits.fragmentTimeout = some timeout →
        Timely timeout (r.opened.map Prod.fst) arrivals := by
  induction arrivals generalizing r with
  | nil => simp [arriving, finished] at complete
  | cons arrival arrivals ih =>
    have later : OnlyFrames arrivals := fun other member => frames other (by simp [member])
    rw [List.foldl_cons]
    rcases frames arrival (by simp) with pending | ⟨frame, item⟩
    · have same : r.receive limits arrival = r := by simp [receive, pending]
      simp only [arriving, List.filterMap_cons, pending] at carries complete
      simp only [Timely, pending, same]
      exact ih later carries complete reading before
    · simp only [arriving, List.filterMap_cons, item] at carries complete
      simp only [Timely, item]
      cases carries with
      | control control rest =>
        by_cases close : frame.opcode = .close
        · simp [finished, close] at complete
        · rw [finished_control control close] at complete
          have other : message.whole ≠ { frame with mask := none } :=
            (data.control_ne (by exact control)).symm
          rw [receive_control reading item control close]
          simp only [close, control, ne_eq, not_false_eq_true, forall_const, ↓reduceIte]
          exact ih later rest complete reading (by simp [answer, before, other])
      | last part fin whole rest =>
        have belongs := part.unmasked
        have whole' := (joined_unmasked (r.opened.map Prod.snd) frame).trans whole
        have fits : ¬ limits.Exceeds r.opened { frame with mask := none } :=
          Limits.not_exceeds small room (by rw [whole'])
        simp only [part.other, part.data, fin, ne_eq, not_false_eq_true, forall_const,
          Bool.false_eq_true, ↓reduceIte]
        refine part_iff data reading item part fits later (rest.stray (.inl rfl)) before ?_
        intro inTime
        have delivered : assemble limits.checkUtf8 (r.opened.map Prod.snd)
            { frame with mask := none } = (some (.ok message.whole), none) := by
          have passed := checkText_valid valid
          rw [Frame.whole] at passed ⊢
          rw [assemble_last belongs.data belongs.continues (by exact fin), whole', passed]
          rfl
        rw [onData_assemble fits inTime delivered]
        refine iff_of_true (mem_foldl (by simp)) ?_
        intro timeout _
        exact Timely.control_tail later rest timeout none
      | more part fin opcode payload rest =>
        have belongs := part.unmasked
        have same := joined_unmasked (r.opened.map Prod.snd) frame
        have fits : ¬ limits.Exceeds r.opened { frame with mask := none } :=
          Limits.not_exceeds small room (by rw [same]; exact payload.length_le)
        rw [finished_data part.data, if_neg (by simp [fin])] at complete
        simp only [part.other, part.data, fin, ne_eq, not_false_eq_true, forall_const,
          Bool.false_eq_true, ↓reduceIte]
        refine part_iff data reading item part fits later (rest.stray (.inr ⟨rfl, _, rfl⟩)) before ?_
        intro inTime
        have joins : assemble limits.checkUtf8 (r.opened.map Prod.snd)
            { frame with mask := none } = (none, some (joined (r.opened.map Prod.snd) frame)) := by
          rw [assemble_more belongs.data belongs.continues (by exact fin), same]
        rw [onData_assemble fits inTime joins]
        exact ih (r := { r with
          opened := some ((r.opened.map Prod.fst).getD arrival.time,
            joined (r.opened.map Prod.snd) frame)
          answers := r.answers ++ [] }) later rest complete reading (by simpa using before)

end Late

section Limit

variable {flate : Flate} {opts : Negotiation} {incoming : List Arrival} {message : Frame}

private theorem WebSocket.reads_run (count : Nat) (ws : WebSocket) :
    ∃ trace final, Trace.Run step (fun _ _ => True) ws trace final ∧
      reads (trace.map Prod.fst) = count := by
  induction count generalizing ws with
  | zero => exact ⟨[], ws, .nil, rfl⟩
  | succ count ih =>
    obtain ⟨trace, final, run, same⟩ := ih ws.pollNextFrame.2
    have first : ws.step .pollNextFrame =
        some (.read ws.pollNextFrame.1, ws.pollNextFrame.2) := rfl
    refine ⟨_, final, .cons trivial first run, ?_⟩
    simpa [reads] using same

/-- Acceptance is a matter of the reference alone. -/
theorem Negotiation.accepts_iff
    (plain : ∀ frame ∈ arriving incoming, frame.isCompressed = false) :
    opts.Accepts flate incoming message ↔
      .ok message.whole ∈ (incoming.foldl (Reception.receive opts.limits) .new).answers := by
  constructor
  · intro accepts
    obtain ⟨trace, final, run, same⟩ :=
      WebSocket.reads_run incoming.length (.new flate (.new incoming [] 0) opts)
    rw [← verdicts_receive flate opts plain (by simp) run same.ge]
    exact accepts [] 0 trace final (by simp) run same.ge
  · intro member replies clock trace ws byIo run enough
    rw [verdicts_receive flate opts plain byIo run enough]
    exact member

private theorem Frame.IsData.notControl (data : message.IsData) : message.opcode.isControl =
    false := by
  rcases data.kind with text | binary
  · simp [text, OpCode.isControl]
  · simp [binary, OpCode.isControl]

private theorem Negotiation.Accepts.valid {time : Nat} (data : message.IsData)
    (alone : opts.Accepts flate [.at time message] message) :
    message.opcode = .text → opts.limits.checkUtf8 → fromUtf8 message.payload := by
  intro text check
  by_contra invalid
  have member := (accepts_iff (by simpa [arriving, Arrival.at] using data.plain)).mp alone
  rw [List.foldl_cons, List.foldl_nil, Reception.receive_data rfl rfl data.notControl] at member
  by_cases exceeds : opts.limits.Exceeds Reception.new.opened { message with mask := none }
  · rw [Reception.onData_exceeds exceeds] at member
    simp [Reception.refuse, Reception.answer, Reception.new] at member
  · have refused : assemble opts.limits.checkUtf8 none { message with mask := none } =
        (some (.error .invalidUTF8), none) := by
      simp [assemble, joined, text, data.whole, check, invalid, OpCode.isControl]
    rw [Reception.onData_assemble exceeds (by simp [Limits.Expired, text]) refused] at member
    simp [Reception.new] at member

private theorem toNat_double (size : UInt64) :
    (size * 2).toNat = size.toNat * 2 ↔ size.toNat < 2 ^ 63 := by
  have range := size.toNat_lt
  rw [UInt64.toNat_mul, show (2 : UInt64).toNat = 2 from rfl]
  omega

/-- With the default for the read buffer, the limits are computed without overflow and a
message that is accepted in one frame is accepted in fragments exactly if the payload
limit is below half the range and the fragments arrive within the timeout. -/
theorem split_accepted_iff {options : Options} {payloadRead : UInt64}
    (set : options.maxPayloadRead = some payloadRead) (unset : options.maxReadBuffer = none)
    {extensions : Option WebSocketExtensions} {role : Role}
    (settled : Negotiation.new extensions options role = .ok opts) (data : message.IsData)
    (short : message.payload.length < payloadRead.toNat) {time : Nat}
    (alone : opts.Accepts flate [.at time message] message) (frames : OnlyFrames incoming)
    (split : SplitInto message (arriving incoming)) :
    opts.maxReadBuffer.toNat = payloadRead.toNat * 2 ∧ opts.Accepts flate incoming message ↔
      payloadRead.toNat < 2 ^ 63 ∧
        ∀ timeout, options.fragmentation.bind (·.timeout) = some timeout →
          Timely timeout none incoming := by
  have limits : opts.maxPayloadRead = payloadRead ∧ opts.maxReadBuffer = payloadRead * 2 ∧
      opts.fragmentation = options.fragmentation := by
    unfold Negotiation.new at settled
    split at settled
    · simp at settled
    · obtain rfl := Except.ok.inj settled
      simp [set, unset]
  obtain ⟨payload, buffer, fragmentation⟩ := limits
  rw [buffer, toNat_double]
  apply and_congr_right
  intro half
  have small : message.payload.length < opts.limits.maxPayloadRead := by
    rw [Negotiation.limits, payload]
    exact short
  have room : message.payload.length < opts.limits.maxReadBuffer := by
    rw [Negotiation.limits, buffer, (toNat_double payloadRead).mpr half]
    dsimp only
    omega
  have timeout : opts.limits.fragmentTimeout = options.fragmentation.bind (·.timeout) := by
    rw [Negotiation.limits, fragmentation]
  rw [Negotiation.accepts_iff split.plain, ← timeout]
  exact Reception.delivers_iff data small room (alone.valid data) frames split.carries
    split.complete rfl (by simp [Reception.new])

/-- A text in three fragments with a Ping between them, the first of them empty. -/
theorem split_accepted_iff_hey :
    ∃ opts, Negotiation.new none
        { Options.default with maxPayloadRead := some 4, checkUtf8 := true } .client = .ok opts ∧
      opts.Accepts .stored
        [.at 0 ((Frame.text []).withFin false), .at 3 (.ping [7]),
          .at 5 ((Frame.continuation [104, 101]).withFin false), .at 9 (.continuation [121])]
        (.text [104, 101, 121]) := by
  have split : SplitInto (.text [104, 101, 121]) [(Frame.text []).withFin false, .ping [7],
      (Frame.continuation [104, 101]).withFin false, .continuation [121]] := by
    refine ⟨?_, by decide, by decide⟩
    refine .more ⟨rfl, rfl, by decide⟩ rfl rfl ⟨_, rfl⟩ (.control rfl ?_)
    exact .more ⟨rfl, rfl, by decide⟩ rfl rfl ⟨[121], rfl⟩
      (.last ⟨rfl, rfl, by decide⟩ rfl rfl .done)
  have data : (Frame.text [104, 101, 121]).IsData := ⟨.inl rfl, rfl, rfl⟩
  obtain ⟨opts, settled, alone⟩ : ∃ opts, Negotiation.new none
        { Options.default with maxPayloadRead := some 4, checkUtf8 := true } .client = .ok opts ∧
      opts.Accepts .stored [.at 0 (.text [104, 101, 121])] (.text [104, 101, 121]) := by
    refine ⟨_, rfl, ?_⟩
    rw [Negotiation.accepts_iff (by decide)]
    decide +kernel
  refine ⟨opts, settled, ?_⟩
  refine ((split_accepted_iff rfl rfl settled data (by decide) alone ?_ ?_).mpr ?_).2
  · simp [OnlyFrames, Arrival.at]
  · exact split
  · simp [Options.default]

/-- A limit of half the range leaves no room for fragments: the message is accepted in
one frame, and its first fragment is too large. -/
theorem half_range_refuses :
    ∃ opts, Negotiation.new none
        { Options.default with maxPayloadRead := some 0x8000000000000000 } .client = .ok opts ∧
      opts.maxReadBuffer = 0 ∧
      opts.Accepts .stored [.at 0 (.binary [1, 2])] (.binary [1, 2]) ∧
      SplitInto (.binary [1, 2]) [(Frame.binary [1]).withFin false, .continuation [2]] ∧
      ¬ opts.Accepts .stored
        [.at 0 ((Frame.binary [1]).withFin false), .at 0 (.continuation [2])]
        (.binary [1, 2]) := by
  refine ⟨_, rfl, by decide, ?_, ?_, ?_⟩
  · rw [Negotiation.accepts_iff (by simp [arriving, Arrival.at, Frame.binary, Frame.new])]
    decide +kernel
  · refine ⟨?_, by decide, by decide⟩
    exact .more ⟨rfl, rfl, by decide⟩ rfl rfl ⟨[2], rfl⟩
      (.last ⟨rfl, rfl, by decide⟩ rfl rfl .done)
  · rw [Negotiation.accepts_iff (by simp [arriving, Arrival.at, Frame.binary, Frame.new,
      Frame.withFin, Frame.continuation])]
    decide +kernel

end Limit

end Yawc
