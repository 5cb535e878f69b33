import Yawc.Native.Reassembly

/-! From end to end: what is sent through one connection, fragmented, masked,
cut into chunks and mixed with automatic replies, is delivered by the other. -/

namespace Yawc

section Framing

variable {opened : Option (OpCode × Bytes)} {messages rest : List Frame}

/-- The rest of a message, behind what is already there of it. -/
theorem Continues.carries {size : Nat} {message : Frame} {front payload : Bytes}
    {frames : List Frame} (continues : Continues size message payload frames)
    (plain : message.isCompressed = false) (whole : front ++ payload = message.payload)
    (later : Carries none messages rest) :
    Carries (some (message.opcode, front)) (message :: messages) (frames ++ rest) := by
  induction continues generalizing front with
  | @last frame payload part opcode fin complete =>
    have belongs : Belongs (some (message.opcode, front)) frame :=
      ⟨by simp [opcode, OpCode.isControl], by simpa [plain] using part.plain, by simp [opcode]⟩
    exact .last belongs fin (by simp [joined, ← complete, whole]) later
  | @more frame payload behind others part opcode fin _ complete ih =>
    have belongs : Belongs (some (message.opcode, front)) frame :=
      ⟨by simp [opcode, OpCode.isControl], by simpa [plain] using part.plain, by simp [opcode]⟩
    rw [complete, ← List.append_assoc] at whole
    exact .more belongs fin rfl ⟨behind, whole⟩ (ih whole)

/-- The fragments of a message carry it. -/
theorem Fragmented.carries {size : Nat} {message : Frame} {frames : List Frame}
    (fragmented : Fragmented size message frames)
    (data : message.opcode = .text ∨ message.opcode = .binary) (fin : message.fin)
    (plain : message.isCompressed = false) (later : Carries none messages rest) :
    Carries none (message :: messages) (frames ++ rest) := by
  have belongs {frame : Frame} (opcode : frame.opcode = message.opcode)
      (unpressed : frame.isCompressed = false) : Belongs none frame := by
    rcases data with text | binary
    · exact ⟨by simp [opcode, text, OpCode.isControl], unpressed, by simp [opcode, text]⟩
    · exact ⟨by simp [opcode, binary, OpCode.isControl], unpressed, by simp [opcode, binary]⟩
  cases fragmented with
  | whole _ => exact .last (belongs rfl plain) fin rfl later
  | @split first behind others part opcode unfinished continues complete =>
    refine .more (belongs opcode (by simpa [plain] using part.plain)) unfinished opcode
      ⟨behind, complete.symm⟩ ?_
    simp only [joined, opcode]
    exact continues.carries plain complete.symm later

/-- A message is carried by what it is sent as. -/
theorem SentAs.carries {fragmentSize : Option Nat} {message : Frame} {frames : List Frame}
    (sent : SentAs fragmentSize message frames)
    (data : message.opcode = .text ∨ message.opcode = .binary) (fin : message.fin)
    (plain : message.isCompressed = false) (later : Carries none messages rest) :
    Carries none (message :: messages) (frames ++ rest) := by
  cases fragmentSize with
  | none =>
    rw [SentAs] at sent
    subst sent
    exact Fragmented.carries (.whole (Nat.le_refl _)) data fin plain later
  | some size => exact Fragmented.carries sent data fin plain later

theorem fin_of_content {first second : Frame} (same : first.content = second.content) :
    first.fin = second.fin :=
  congrArg (·.1) same

private theorem joined_of_content (opened : Option (OpCode × Bytes)) {first second : Frame}
    (same : first.content = second.content) :
    joined opened first = joined opened second := by
  have opcode : first.opcode = second.opcode := congrArg (·.2.1) same
  have payload : first.payload = second.payload := congrArg (·.2.2.2) same
  simp [joined, opcode, payload]

private theorem Belongs.arrived {first second : Frame} (belongs : Belongs opened second)
    (same : first.content = second.content) : Belongs opened first := by
  have opcode : first.opcode = second.opcode := congrArg (·.2.1) same
  have compressed : first.isCompressed = second.isCompressed := congrArg (·.2.2.1) same
  exact ⟨opcode ▸ belongs.data, compressed ▸ belongs.plain, opcode ▸ belongs.continues⟩

/-- A cut-off stream carries the same messages. -/
theorem Carries.cut {front back : List Frame} (carries : Carries opened messages (front ++ back)) :
    Carries opened messages front := by
  induction front generalizing opened messages with
  | nil => exact .done
  | cons frame front ih =>
    rw [List.cons_append] at carries
    cases carries with
    | control control later => exact .control control (ih later)
    | last belongs fin complete later => exact .last belongs fin complete (ih later)
    | more belongs fin opcode payload later => exact .more belongs fin opcode payload (ih later)

/-- Control frames may stand anywhere in between. -/
theorem Carries.interleave {frames : List Frame}
    (carries : Carries opened messages (dataFrames frames)) : Carries opened messages frames := by
  induction frames generalizing opened messages with
  | nil => exact .done
  | cons frame frames ih =>
    cases control : frame.opcode.isControl with
    | true => exact .control control (ih (by simpa [dataFrames, control] using carries))
    | false =>
      have same : dataFrames (frame :: frames) = frame :: dataFrames frames := by
        simp [dataFrames, control]
      rw [same] at carries
      cases carries with
      | control other _ => simp [control] at other
      | last belongs fin complete later => exact .last belongs fin complete (ih later)
      | more belongs fin opcode payload later => exact .more belongs fin opcode payload (ih later)

/-- How frames were masked makes no difference. -/
theorem Carries.arrived {frames arrived : List Frame} (carries : Carries opened messages frames)
    (same : arrived.map Frame.content = frames.map Frame.content) :
    Carries opened messages arrived := by
  induction carries generalizing arrived with
  | done =>
    simp only [List.map_nil, List.map_eq_nil_iff] at same
    subst same
    exact .done
  | @control opened messages rest frame control _ ih =>
    obtain ⟨first, others, rfl, content, later⟩ := List.map_eq_cons_iff.mp same
    have opcode : first.opcode = frame.opcode := congrArg (·.2.1) content
    exact .control (opcode ▸ control) (ih later)
  | @last opened messages rest message frame belongs fin complete _ ih =>
    obtain ⟨first, others, rfl, content, later⟩ := List.map_eq_cons_iff.mp same
    exact .last (belongs.arrived content) (by rw [fin_of_content content]; exact fin)
      (by rw [joined_of_content _ content]; exact complete) (ih later)
  | @more opened messages rest message frame belongs fin opcode payload _ ih =>
    obtain ⟨first, others, rfl, content, later⟩ := List.map_eq_cons_iff.mp same
    have joins := joined_of_content opened content
    exact .more (belongs.arrived content) (by rw [fin_of_content content]; exact fin)
      (joins ▸ opcode) (joins ▸ payload) (joins ▸ ih later)

theorem finished_arrived {frames arrived : List Frame}
    (same : arrived.map Frame.content = frames.map Frame.content) :
    finished arrived = finished frames := by
  induction frames generalizing arrived with
  | nil =>
    simp only [List.map_nil, List.map_eq_nil_iff] at same
    rw [same]
  | cons frame frames ih =>
    obtain ⟨first, others, rfl, content, later⟩ := List.map_eq_cons_iff.mp same
    have opcode : first.opcode = frame.opcode := congrArg (·.2.1) content
    have fin := fin_of_content content
    by_cases close : frame.opcode = .close
    · rw [finished_close close, finished_close (opcode.trans close)]
    · cases control : frame.opcode.isControl with
      | true =>
        rw [finished_control control close, finished_control (opcode ▸ control) (opcode ▸ close),
          ih later]
      | false =>
        rw [finished_data control, finished_data (opcode ▸ control), ih later, fin]

/-- Without a Close, all messages count whose last frame is there. -/
theorem finished_noClose {frames : List Frame} (none : NoClose frames) :
    finished frames = (dataFrames frames).countP (·.fin) := by
  have all : frames.takeWhile (·.opcode ≠ .close) = frames := by
    rw [List.takeWhile_eq_self_iff]
    intro frame member
    simpa using none frame member
  rw [finished, all, dataFrames, List.countP_filter]
  simp [Bool.and_comm]

end Framing

/-- A Text or Binary message as the public constructors make it. A server leaves
its messages unmasked. -/
structure Frame.IsMessage (role : Role) (frame : Frame) : Prop where
  data : frame.opcode = .text ∨ frame.opcode = .binary
  whole : frame.fin
  plain : frame.isCompressed = false
  unmasked : role = .server → frame.mask = none

section Pieces

variable {role : Role} {fragmentSize : Option Nat} {messages : List Frame}

theorem pieces_carry (positive : ∀ size, fragmentSize = some size → 0 < size)
    (given : ∀ message ∈ messages, message.IsMessage role) :
    Carries none messages (messages.flatMap (pieces fragmentSize)) := by
  induction messages with
  | nil => exact .done
  | cons message messages ih =>
    have first := given message (by simp)
    exact (pieces_sentAs positive message).carries first.data first.whole first.plain
      (ih fun other member => given other (by simp [member]))

theorem pieces_count (positive : ∀ size, fragmentSize = some size → 0 < size)
    (given : ∀ message ∈ messages, message.IsMessage role) :
    (messages.flatMap (pieces fragmentSize)).countP (·.fin) = messages.length := by
  induction messages with
  | nil => rfl
  | cons message messages ih =>
    have first := (pieces_sentAs positive message).count_fin (given message (by simp)).whole
    rw [List.flatMap_cons, List.countP_append, first,
      ih fun other member => given other (by simp [member]), List.length_cons, Nat.add_comm]

theorem pieces_data (given : ∀ message ∈ messages, message.IsMessage role) :
    ∀ frame ∈ messages.flatMap (pieces fragmentSize), frame.opcode.isControl = false := by
  intro frame member
  obtain ⟨message, sent, piece⟩ := List.mem_flatMap.mp member
  rcases pieces_opcode fragmentSize message frame piece with opcode | opcode
  · rcases (given message sent).data with text | binary
    · simp [opcode, text, OpCode.isControl]
    · simp [opcode, binary, OpCode.isControl]
  · simp [opcode, OpCode.isControl]

theorem pieces_unmasked (positive : ∀ size, fragmentSize = some size → 0 < size)
    (given : ∀ message ∈ messages, message.IsMessage role) (server : role = .server) :
    ∀ frame ∈ messages.flatMap (pieces fragmentSize), frame.mask = none := by
  intro frame member
  obtain ⟨message, sent, piece⟩ := List.mem_flatMap.mp member
  rw [(pieces_sentAs positive message).mask frame piece]
  exact (given message sent).unmasked server

end Pieces

/-- A run in which a connection without compression is only given messages, over
a transport that answers ready or pending. -/
structure MessageRun (role : Role) (flate : Flate) (stream : Framed) (opts : Negotiation)
    (trace : List (Call × Answer)) (sender : WebSocket) : Prop where
  run : Trace.Run WebSocket.step (fun _ _ => True) (.new flate stream opts) trace sender
  uncompressed : opts.compression = none
  positive : ∀ size, opts.fragmentation.bind (·.fragmentSize) = some size → 0 < size.toNat
  healthy : stream.Healthy
  unclosed : ∀ pair ∈ trace, pair.1 ≠ .pollClose
  given : ∀ frame answer, (Call.startSend frame, answer) ∈ trace → frame.IsMessage role

/-- The fragment size as the fragment layer has it. -/
def Negotiation.fragmentSize (self : Negotiation) : Option Nat :=
  (self.fragmentation.bind (·.fragmentSize)).map (·.toNat)

namespace MessageRun

variable {role : Role} {flate : Flate} {incoming : List Arrival} {replies : List Reply}
  {clock : Nat} {opts : Negotiation} {trace : List (Call × Answer)} {sender : WebSocket}

theorem accepted (sending : MessageRun role flate (.new incoming replies clock) opts trace sender) :
    ∀ message ∈ trace.filterMap Call.accepted, message.IsMessage role := by
  intro message member
  obtain ⟨⟨call, answer⟩, called, same⟩ := List.mem_filterMap.mp member
  unfold Call.accepted at same
  split at same
  · rename_i frame pair
    simp only [Option.some.injEq] at same
    subst same
    simp only [Prod.mk.injEq] at pair
    obtain ⟨rfl, rfl⟩ := pair
    exact sending.given frame _ called
  · simp at same

theorem positiveSize
    (sending : MessageRun role flate (.new incoming replies clock) opts trace sender) :
    ∀ size, opts.fragmentSize = some size → 0 < size := by
  intro size set
  simp only [Negotiation.fragmentSize, Option.map_eq_some_iff] at set
  obtain ⟨size, set, rfl⟩ := set
  exact sending.positive size set

/-- What is handed on are the pieces of the messages, and replies in between. -/
theorem handed (sending : MessageRun role flate (.new incoming replies clock) opts trace sender) :
    dataFrames sender.handed ++ sender.fragmentLayer.outgoingFragments =
        (trace.filterMap Call.accepted).flatMap (pieces opts.fragmentSize) ∧
      ∀ frame ∈ sender.handed, frame.Automatic ∨
        frame ∈ (trace.filterMap Call.accepted).flatMap (pieces opts.fragmentSize) := by
  have plain : (Streaming.new flate (.new incoming replies clock) opts).sender.deflate = none := by
    simp [Streaming.sender, Streaming.new, sending.uncompressed]
  obtain ⟨done, sent, replied, progress, split, -⟩ :=
    (Conserved.new flate sending.healthy).run sending.run sending.unclosed (.inl plain)
  rw [List.nil_append] at split
  obtain ⟨_, all, -⟩ := Sender.sendAll_plain plain done
  rw [progress.prepared] at all
  simp only [Option.some.injEq, Prod.mk.injEq] at all
  obtain ⟨rfl, -⟩ := all
  have automatic : ∀ frame ∈ replied, frame.Automatic := by
    intro frame member
    exact progress.control frame (by simp [progress.owed, member])
  have given : ∀ frame ∈ sent, frame ∈
      (trace.filterMap Call.accepted).flatMap (pieces opts.fragmentSize) := by
    intro frame member
    rw [Negotiation.fragmentSize, split]
    exact List.mem_append_left _ member
  constructor
  · have data : dataFrames sender.handed = sent := by
      refine progress.handed.filter_eq _ (fun frame member => ?_) fun frame member => ?_
      · simp [(automatic frame member).control]
      · simp [pieces_data sending.accepted frame (given frame member)]
    rw [data]
    exact split.symm
  · intro frame member
    exact ((progress.handed.mem frame).mp member).imp (automatic frame) (given frame)

/-- The peer's decoder lets all of it through. -/
theorem sendable (sending : MessageRun role flate (.new incoming replies clock) opts trace sender)
    {maxPayloadSize : UInt64}
    (fits : ∀ frame ∈ sender.handed, frame.payload.length < maxPayloadSize.toNat) :
    ∀ frame ∈ sender.handed, Sendable role maxPayloadSize frame := by
  intro frame member
  rcases sending.handed.2 frame member with automatic | piece
  · refine ⟨fun _ => automatic.fin, ?_, fits frame member, fun _ => automatic.unmasked⟩
    intro ping
    rcases automatic.opcode with pong | close
    · simp [ping] at pong
    · simp [ping] at close
  · have data := pieces_data sending.accepted frame piece
    refine ⟨by simp [data], ?_, fits frame member, fun server =>
      pieces_unmasked sending.positiveSize sending.accepted server frame piece⟩
    intro ping
    simp [ping, OpCode.isControl] at data

end MessageRun

/-- The frames an endpoint was handed, encoded with some masks, cut into chunks
and decoded by the peer; the peer's transport may be pending in between. -/
structure Wire (cpu encoderCpu : Cpu) (role : Role) (maxPayloadSize : UInt64)
    (handed : List Frame) (arrivals : List Arrival) : Prop where
  decoded : ∃ (frames : List (Frame × Mask)) (chunks : List Bytes),
    frames.map Prod.fst = handed ∧ chunks.flatten = Encoder.encodeAll encoderCpu role frames [] ∧
    arriving arrivals = (Incremental.feed (Decoder.decode cpu)
      (.new role.opposite maxPayloadSize) [] chunks).items
  frames : OnlyFrames arrivals

theorem Wire.arrived {cpu encoderCpu : Cpu} {role : Role} {maxPayloadSize : UInt64}
    {handed : List Frame} {arrivals : List Arrival}
    (wire : Wire cpu encoderCpu role maxPayloadSize handed arrivals)
    (sendable : ∀ frame ∈ handed, Sendable role maxPayloadSize frame) :
    (arriving arrivals).map Frame.content = handed.map Frame.content := by
  obtain ⟨frames, chunks, rfl, bytes, items⟩ := wire.decoded
  have all : ∀ sent ∈ frames, Sendable role maxPayloadSize sent.1 :=
    fun sent member => sendable sent.1 (List.mem_map_of_mem member)
  rw [items, (Decoder.decode_resumable cpu).feed_eq _ [] chunks (Decoder.new_idle cpu _ _),
    List.nil_append, bytes, Decoder.drainAll_encodeAll cpu encoderCpu all,
    Decoder.content_sentBy_all, List.map_map]
  rfl

/-- A server's frames arrive as they were handed on. -/
theorem Wire.unmasked (cpu encoderCpu : Cpu) {maxPayloadSize : UInt64} {handed : List Frame}
    {arrivals : List Arrival}
    (sendable : ∀ frame ∈ handed, Sendable .server maxPayloadSize frame)
    (same : arriving arrivals = handed) (frames : OnlyFrames arrivals) :
    Wire cpu encoderCpu .server maxPayloadSize handed arrivals := by
  let sent := handed.map fun frame => (frame, Mask.mk 0 0 0 0)
  have all : ∀ pair ∈ sent, Sendable .server maxPayloadSize pair.1 := by
    intro pair member
    obtain ⟨frame, handedOn, rfl⟩ := List.mem_map.mp member
    exact sendable frame handedOn
  refine ⟨⟨sent, [Encoder.encodeAll encoderCpu .server sent []], ?_, by simp, ?_⟩, frames⟩
  · simp [sent, Function.comp_def]
  · rw [(Decoder.decode_resumable cpu).feed_eq _ [] _ (Decoder.new_idle cpu _ _), List.nil_append,
      List.flatten_singleton, Decoder.drainAll_encodeAll cpu encoderCpu all, same]
    simp [sent, Function.comp_def, Frame.sentBy]

/-- A new connection awaits the messages that are still to arrive. -/
theorem Awaits.new (flate : Flate) (opts : Negotiation) {arrivals : List Arrival}
    {messages : List Frame} (answers : List Reply) (now : Nat) (frames : OnlyFrames arrivals)
    (carries : Carries none messages (arriving arrivals))
    (fits : ∀ frame ∈ arriving arrivals, frame.payload.length < opts.maxPayloadRead.toNat)
    (timely : ∀ timeout, opts.fragmentation.bind (·.timeout) = some timeout →
      Timely timeout none arrivals)
    (allowed : ∀ message ∈ messages,
      (WebSocket.new flate (.new arrivals answers now) opts).limits.Allows message) :
    Awaits (WebSocket.new flate (.new arrivals answers now) opts).limits messages
      (finished (arriving arrivals)) arrivals.length
      (.new flate (.new arrivals answers now) opts) where
  reading := rfl
  uncompressed := rfl
  same := rfl
  allowed := allowed
  frames := frames
  carries := carries
  fits := fits
  timely := timely
  buffered := nofun
  ends := rfl
  within := Nat.le_refl _

/-- Contents that are the same have the same sizes. -/
theorem payload_of_arrived {frames arrived : List Frame} {bound : Nat}
    (same : arrived.map Frame.content = frames.map Frame.content)
    (fits : ∀ frame ∈ frames, frame.payload.length < bound) :
    ∀ frame ∈ arrived, frame.payload.length < bound := by
  intro frame member
  have sent : frame.content ∈ frames.map Frame.content := by
    rw [← same]
    exact List.mem_map_of_mem member
  obtain ⟨original, found, content⟩ := List.mem_map.mp sent
  have payload : original.payload = frame.payload := congrArg (·.2.2.2) content
  rw [← payload]
  exact fits original found

/-- A server sends messages within the limits of a client, which reads all that
arrives but does not deliver them. -/
def Withheld (stream : Framed) (opts : Negotiation) (trace : List (Call × Answer))
    (arrivals : List Arrival) (answers : List Reply) (peerOpts : Negotiation)
    (received : List (Call × Answer)) : Prop :=
  ∃ sender peer,
    MessageRun .server .stored stream opts trace sender ∧
    sender.fragmentLayer.outgoingFragments = [] ∧
    Wire .scalar .scalar .server peerOpts.maxPayloadRead sender.handed arrivals ∧
    (∀ frame ∈ sender.handed, frame.payload.length < peerOpts.maxPayloadRead.toNat) ∧
    (∀ message ∈ trace.filterMap Call.accepted,
      message.payload.length < peerOpts.maxReadBuffer.toNat) ∧
    Trace.Run WebSocket.step (fun _ _ => True)
      (.new .stored (.new arrivals answers 0) peerOpts) received peer ∧
    arrivals.length ≤ reads (received.map Prod.fst) ∧
    (dataFrames (received.filterMap (·.2.delivered))).map Frame.content ≠
      (trace.filterMap Call.accepted).map Frame.content

/-- Messages are withheld if the runs say so. -/
theorem Withheld.of_runs {incoming arrivals : List Arrival} {replies answers : List Reply}
    {opts peerOpts : Negotiation} {trace received : List (Call × Answer)} {sender peer : WebSocket}
    (sending : MessageRun .server .stored (.new incoming replies 0) opts trace sender)
    (receiving : Trace.Run WebSocket.step (fun _ _ => True)
      (.new .stored (.new arrivals answers 0) peerOpts) received peer)
    (handed : arriving arrivals = sender.handed) (frames : OnlyFrames arrivals)
    (flushed : sender.fragmentLayer.outgoingFragments = [])
    (framesFit : ∀ frame ∈ arriving arrivals,
      frame.payload.length < peerOpts.maxPayloadRead.toNat)
    (messagesFit : ∀ message ∈ trace.filterMap Call.accepted,
      message.payload.length < peerOpts.maxReadBuffer.toNat)
    (often : arrivals.length ≤ reads (received.map Prod.fst))
    (differs : (dataFrames (received.filterMap (·.2.delivered))).map Frame.content ≠
      (trace.filterMap Call.accepted).map Frame.content) :
    Withheld (.new incoming replies 0) opts trace arrivals answers peerOpts received := by
  rw [handed] at framesFit
  exact ⟨sender, peer, sending, flushed,
    .unmasked _ _ (sending.sendable framesFit) handed frames, framesFit, messagesFit, receiving,
    often, differs⟩

/-- Three messages that are not delivered although they are within the limits: a
text that is not valid, a message whose fragments arrive too far apart, and one
that is sent behind the answer to a Close. -/
theorem messages_withheld :
    Withheld (.new [] [] 0) .plain [(.startSend (.text [255]), .sent (.ok ()))]
      [.at 0 (.text [255])] [] { Negotiation.plain with utf8 := true }
      [(.pollNextFrame, .read (.ready (.error .invalidUTF8)))] ∧
    Withheld (.new [] (List.replicate 5 (.ready (.ok ()))) 0)
      { Negotiation.plain with fragmentation := some ⟨none, some 1⟩ }
      [(.startSend (.binary [1, 2]), .sent (.ok ())), (.pollFlush, .reply (.ready (.ok ())))]
      [.at 0 ((Frame.binary [1]).withFin false), .at 11 (.continuation [2])] []
      { Negotiation.plain with fragmentation := some ⟨some 10, none⟩ }
      [(.pollNextFrame, .read (.ready (.error .fragmentTimeout))),
        (.pollNextFrame, .read .pending)] ∧
    Withheld (.new [.at 0 (.close .normal [])] (List.replicate 6 (.ready (.ok ()))) 0) .plain
      [(.startSend (.binary [1]), .sent (.ok ())),
        (.pollNextFrame, .read (.ready (.ok (.close .normal [])))),
        (.pollReady, .reply (.ready (.ok ()))), (.startSend (.binary [2]), .sent (.ok ()))]
      [.at 0 (.binary [1]), .at 0 (.close .normal []), .at 0 (.binary [2])]
      (List.replicate 4 (.ready (.ok ()))) .plain
      [(.pollNextFrame, .read (.ready (.ok (.binary [1])))),
        (.pollNextFrame, .read (.ready (.ok (.close .normal [])))),
        (.pollNextFrame, .read (.ready (.error .connectionClosed)))] := by
  refine ⟨?_, ?_, ?_⟩
  · refine .of_runs ⟨.of_exec [.startSend (.text [255])] rfl, rfl, by simp [Negotiation.plain],
      by simp [Framed.Healthy, Framed.new], by simp, ?_⟩ (.of_exec [.pollNextFrame] rfl)
      (by decide) (by simp [OnlyFrames, Arrival.at]) rfl (by decide) (by decide) (by decide)
      (by decide)
    intro frame answer member
    have same : frame = .text [255] := by simp_all
    exact same ▸ ⟨.inl rfl, rfl, rfl, fun _ => rfl⟩
  · refine .of_runs ⟨.of_exec [.startSend (.binary [1, 2]), .pollFlush] rfl, rfl, by simp,
      by simp [Framed.Healthy, Framed.new], by simp, ?_⟩
      (.of_exec [.pollNextFrame, .pollNextFrame] rfl) (by decide) (by simp [OnlyFrames, Arrival.at])
      rfl (by decide) (by decide) (by decide) (by decide)
    intro frame answer member
    have same : frame = .binary [1, 2] := by simp_all
    exact same ▸ ⟨.inr rfl, rfl, rfl, fun _ => rfl⟩
  · refine .of_runs ⟨.of_exec [.startSend (.binary [1]), .pollNextFrame, .pollReady,
      .startSend (.binary [2])] rfl, rfl, by simp [Negotiation.plain],
      by simp [Framed.Healthy, Framed.new], by simp, ?_⟩
      (.of_exec [.pollNextFrame, .pollNextFrame, .pollNextFrame] rfl) (by decide)
      (by simp [OnlyFrames, Arrival.at]) rfl (by decide) (by decide) (by decide) (by decide)
    intro frame answer member
    have same : frame = .binary [1] ∨ frame = .binary [2] := by
      simp only [List.mem_cons, Prod.mk.injEq, Call.startSend.injEq] at member
      grind
    rcases same with rfl | rfl <;> exact ⟨.inr rfl, rfl, rfl, fun _ => rfl⟩

section Delivery

variable (flate peerFlate : Flate) (opts peerOpts : Negotiation) (cpu encoderCpu : Cpu)

/-- Whatever the two transports do, the peer delivers the messages in order and
unchanged, as far as they end before a Close. Limits, text check and timeout of
the peer have to allow them. -/
theorem messages_delivered {role : Role} {incoming arrivals : List Arrival}
    {replies answers : List Reply} {clock now : Nat} {trace received : List (Call × Answer)}
    {sender peer : WebSocket}
    (sending : MessageRun role flate (.new incoming replies clock) opts trace sender)
    (wire : Wire cpu encoderCpu role peerOpts.maxPayloadRead sender.handed arrivals)
    (framesFit : ∀ frame ∈ sender.handed, frame.payload.length < peerOpts.maxPayloadRead.toNat)
    (messagesFit : ∀ message ∈ trace.filterMap Call.accepted,
      message.payload.length < peerOpts.maxReadBuffer.toNat)
    (valid : peerOpts.utf8 → ∀ message ∈ trace.filterMap Call.accepted,
      message.opcode = .text → fromUtf8 message.payload)
    (timely : ∀ timeout, peerOpts.fragmentation.bind (·.timeout) = some timeout →
      Timely timeout none arrivals)
    (receiving : Trace.Run WebSocket.step (fun _ _ => True)
      (.new peerFlate (.new arrivals answers now) peerOpts) received peer) :
    let messages := trace.filterMap Call.accepted
    let delivered := (dataFrames (received.filterMap (·.2.delivered))).map Frame.content
    (∀ message ∈ messages,
      SentAs opts.fragmentSize message (pieces opts.fragmentSize message)) ∧
    dataFrames sender.handed ++ sender.fragmentLayer.outgoingFragments =
      messages.flatMap (pieces opts.fragmentSize) ∧
    delivered <+: messages.map Frame.content ∧
    (arrivals.length ≤ reads (received.map Prod.fst) →
      delivered = (messages.take (finished sender.handed)).map Frame.content ∧
      (NoClose sender.handed → sender.fragmentLayer.outgoingFragments = [] →
        delivered = messages.map Frame.content)) := by
  intro messages delivered
  have given := sending.accepted
  have positive := sending.positiveSize
  have handed := sending.handed.1
  have arrived := wire.arrived (sending.sendable framesFit)
  have carries : Carries none messages (arriving arrivals) := by
    refine Carries.arrived (Carries.interleave ?_) arrived
    have all := pieces_carry positive given
    rw [← handed] at all
    exact all.cut
  have awaits := Awaits.new peerFlate peerOpts answers now wire.frames carries
    (payload_of_arrived arrived framesFit) timely fun message member =>
      ⟨(given message member).data, (given message member).whole, (given message member).plain,
        messagesFit message member, fun text check => valid check message member text⟩
  rw [finished_arrived arrived] at awaits
  have begins : Receives (WebSocket.new peerFlate (.new arrivals answers now) peerOpts).limits
      messages (finished sender.handed) arrivals.length []
      (.new peerFlate (.new arrivals answers now) peerOpts) :=
    ⟨[], messages, rfl, rfl, .inr ⟨_, Nat.zero_add _, awaits⟩⟩
  have receives := begins.run receiving
  rw [List.nil_append] at receives
  refine ⟨fun message _ => pieces_sentAs positive message, handed, ?_, fun enough => ?_⟩
  · obtain ⟨done, later, split, same, -⟩ := receives
    rw [split, List.map_append, ← same]
    exact List.prefix_append _ _
  · rw [Nat.sub_eq_zero_of_le enough] at receives
    have complete := receives.finish
    refine ⟨complete, fun noClose flushed => ?_⟩
    rw [flushed, List.append_nil] at handed
    have all : finished sender.handed = messages.length := by
      rw [finished_noClose noClose, handed, pieces_count positive given]
    rw [← List.take_length (l := messages), ← all]
    exact complete

end Delivery

/-- A fragmented text, with the answer to a Ping between its fragments. -/
theorem messages_delivered_hey :
    ∃ sender received peer,
      MessageRun .server .stored
        (.new [.at 0 (.ping [7])]
          (List.replicate 2 (.ready (.ok ())) ++ .pending :: List.replicate 6 (.ready (.ok ()))) 0)
        { Negotiation.plain with fragmentation := some ⟨none, some 2⟩ }
        [(.startSend (.text [104, 101, 121]), .sent (.ok ())), (.pollFlush, .reply .pending),
          (.pollNextFrame, .read (.ready (.ok (.ping [7])))),
          (.pollFlush, .reply (.ready (.ok ())))] sender ∧
      sender.handed = [(Frame.text [104, 101]).withFin false, .pong [7], .continuation [121]] ∧
      Trace.Run WebSocket.step (fun _ _ => True)
        (.new .stored
          (.new [.at 0 ((Frame.text [104, 101]).withFin false), .at 3 (.pong [7]),
            .at 5 (.continuation [121])] [] 0)
          { Negotiation.plain with utf8 := true, fragmentation := some ⟨some 5, none⟩ })
        received peer ∧
      (dataFrames (received.filterMap (·.2.delivered))).map Frame.content =
        [Frame.text [104, 101, 121]].map Frame.content := by
  obtain ⟨sender, sending, handed, flushed⟩ : ∃ sender,
      MessageRun .server .stored
        (.new [.at 0 (.ping [7])]
          (List.replicate 2 (.ready (.ok ())) ++ .pending :: List.replicate 6 (.ready (.ok ()))) 0)
        { Negotiation.plain with fragmentation := some ⟨none, some 2⟩ }
        [(.startSend (.text [104, 101, 121]), .sent (.ok ())), (.pollFlush, .reply .pending),
          (.pollNextFrame, .read (.ready (.ok (.ping [7])))),
          (.pollFlush, .reply (.ready (.ok ())))] sender ∧
      sender.handed = [(Frame.text [104, 101]).withFin false, .pong [7], .continuation [121]] ∧
      sender.fragmentLayer.outgoingFragments = [] := by
    refine ⟨_, ⟨.of_exec [.startSend (.text [104, 101, 121]), .pollFlush, .pollNextFrame,
      .pollFlush] rfl, rfl, by simp, by simp [Framed.Healthy, Framed.new], by simp, ?_⟩,
      by decide, rfl⟩
    intro frame answer member
    have same : frame = .text [104, 101, 121] := by simp_all
    subst same
    exact ⟨.inl rfl, rfl, rfl, fun _ => rfl⟩
  obtain ⟨received, peer, receiving, often⟩ : ∃ received peer,
      Trace.Run WebSocket.step (fun _ _ => True)
        (.new .stored
          (.new [.at 0 ((Frame.text [104, 101]).withFin false), .at 3 (.pong [7]),
            .at 5 (.continuation [121])] [] 0)
          { Negotiation.plain with utf8 := true, fragmentation := some ⟨some 5, none⟩ })
        received peer ∧ 3 ≤ reads (received.map Prod.fst) :=
    ⟨_, _, .of_exec [.pollNextFrame, .pollNextFrame, .pollNextFrame] rfl, by decide⟩
  have fits : ∀ frame ∈ sender.handed, frame.payload.length < 1024 * 1024 := by
    rw [handed]
    decide
  have wire : Wire .scalar .scalar .server (1024 * 1024) sender.handed
      [.at 0 ((Frame.text [104, 101]).withFin false), .at 3 (.pong [7]),
        .at 5 (.continuation [121])] := by
    exact .unmasked _ _ (sending.sendable fits) (by rw [handed]; rfl)
      (by simp [OnlyFrames, Arrival.at])
  have timely : ∀ timeout, some 5 = some timeout → Timely timeout none
      [.at 0 ((Frame.text [104, 101]).withFin false), .at 3 (.pong [7]),
        .at 5 (.continuation [121])] := by
    simp [Timely, Arrival.at, Frame.text, Frame.pong, Frame.continuation, Frame.new,
      Frame.withFin, OpCode.isControl]
  have delivered := messages_delivered .stored .stored _
    { Negotiation.plain with utf8 := true, fragmentation := some ⟨some 5, none⟩ } .scalar .scalar
    sending wire fits (by decide) (fun _ => by decide) timely receiving
  refine ⟨sender, received, peer, sending, handed, receiving, ?_⟩
  exact (delivered.2.2.2 often).2 (by rw [handed]; unfold NoClose; decide) flushed

end Yawc
