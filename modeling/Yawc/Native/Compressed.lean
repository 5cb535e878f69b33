import Yawc.Native.Inflation
import Yawc.Native.Agreement
import Yawc.Compression.StoredEnds

/-! Messages through two connections that compress with the library's own wrappers. -/

namespace Yawc

/-- The calls of a sender only grow. -/
theorem Sender.sendAll_calls {self final : Sender} {items frames : List Frame}
    (deflating : self.deflate.isSome) (sent : self.sendAll items = some (frames, final)) :
    ∃ more, final.calls = self.calls ++ more := by
  induction items generalizing self frames with
  | nil =>
    simp only [sendAll, Option.some.injEq, Prod.mk.injEq] at sent
    exact ⟨[], by rw [← sent.2, List.append_nil]⟩
  | cons item items ih =>
    simp only [sendAll] at sent
    split at sent
    · simp at sent
    · rename_i frame next first
      simp only [Option.map_eq_some_iff, Prod.mk.injEq] at sent
      obtain ⟨⟨others, _⟩, later, rfl, rfl⟩ := sent
      obtain ⟨more, grown⟩ := ih (send_compressing deflating first).2.2.1 later
      exact ⟨_, by rw [grown, send_calls deflating first, List.append_assoc]⟩

/-- What compression leaves of a frame. -/
def Frame.outline (frame : Frame) : OpCode × Bool × Option Mask :=
  (frame.opcode, frame.fin, frame.mask)

theorem Sender.sendAll_outline {self final : Sender} {items frames : List Frame}
    (sent : self.sendAll items = some (frames, final)) :
    frames.map Frame.outline = items.map Frame.outline := by
  induction items generalizing self frames with
  | nil =>
    simp only [sendAll, Option.some.injEq, Prod.mk.injEq] at sent
    rw [← sent.1]
  | cons item items ih =>
    simp only [sendAll] at sent
    split at sent
    · simp at sent
    · rename_i frame next first
      simp only [Option.map_eq_some_iff, Prod.mk.injEq] at sent
      obtain ⟨⟨others, _⟩, later, rfl, rfl⟩ := sent
      obtain ⟨opcode, fin, mask, -⟩ := Streaming.send_frame first
      simp only [List.map_cons, ih later, Frame.outline, opcode, fin, mask]

/-- Every frame that is handed on has the outline of one that was given. -/
theorem Sender.sendAll_mem {self final : Sender} {items frames : List Frame}
    (sent : self.sendAll items = some (frames, final)) {frame : Frame} (member : frame ∈ frames) :
    ∃ item ∈ items, item.outline = frame.outline := by
  have found : frame.outline ∈ items.map Frame.outline := by
    rw [← sendAll_outline sent]
    exact List.mem_map_of_mem member
  exact List.mem_map.mp found

/-- What a sender hands on ships what it was given, control frames in between. -/
theorem Ships.of_sendAll {codec : Restoration} {sender final : Sender}
    {items frames raws : List Frame} (deflating : sender.deflate.isSome)
    (sent : sender.sendAll items = some (frames, final)) (fair : codec.Honest final.calls)
    (same : (dataFrames raws).map Frame.content = frames.map Frame.content) :
    Ships codec sender items raws := by
  induction raws generalizing sender items frames with
  | nil => exact .done
  | cons raw raws ih =>
    cases control : raw.opcode.isControl with
    | true => exact .control control (ih deflating sent (by simpa [dataFrames, control] using same))
    | false =>
      have first : dataFrames (raw :: raws) = raw :: dataFrames raws := by
        simp [dataFrames, control]
      rw [first, List.map_cons] at same
      obtain ⟨frame, others, rfl, content, rest⟩ := List.map_eq_cons_iff.mp same.symm
      cases items with
      | nil => simp [Sender.sendAll] at sent
      | cons item items =>
        simp only [Sender.sendAll] at sent
        split at sent
        · simp at sent
        · rename_i frame' next taken
          simp only [Option.map_eq_some_iff, Prod.mk.injEq, List.cons.injEq] at sent
          obtain ⟨⟨others', _⟩, later, ⟨rfl, rfl⟩, rfl⟩ := sent
          have deflates := (Sender.send_compressing deflating taken).2.2.1
          obtain ⟨more, grown⟩ := Sender.sendAll_calls deflates later
          exact .item control taken content.symm (codec.front (grown ▸ fair))
            (ih deflates later rest.symm)

/-- A run in which a connection that compresses is only given messages and no call on
the sink fails, over a transport that answers ready or pending. -/
structure CompressedRun (role : Role) (flate : Flate) (config : CompressionConfig)
    (stream : Framed) (opts : Negotiation) (trace : List (Call × Answer)) (sender : WebSocket) :
    Prop where
  run : Trace.Run WebSocket.step (fun _ _ => True) (.new flate stream opts) trace sender
  compressed : opts.compression = some config
  positive : ∀ size, opts.fragmentation.bind (·.fragmentSize) = some size → 0 < size.toNat
  healthy : stream.Healthy
  unclosed : ∀ pair ∈ trace, pair.1 ≠ .pollClose
  fine : ∀ pair ∈ trace, ¬ pair.2.failed
  given : ∀ frame answer, (Call.startSend frame, answer) ∈ trace → frame.IsMessage role

namespace CompressedRun

variable {role : Role} {flate : Flate} {config : CompressionConfig} {incoming : List Arrival}
  {replies : List Reply} {clock : Nat} {opts : Negotiation} {trace : List (Call × Answer)}
  {sender : WebSocket}

theorem accepted
    (sending : CompressedRun role flate config (.new incoming replies clock) opts trace sender) :
    ∀ message ∈ trace.filterMap Call.accepted, message.IsMessage role := by
  intro message member
  obtain ⟨⟨call, answer⟩, called, same⟩ := List.mem_filterMap.mp member
  unfold Call.accepted at same
  split at same
  · rename_i frame pair
    simp only [Option.some.injEq] at same
    subst same
    simp only [Prod.mk.injEq] at pair
    obtain ⟨rfl, rfl⟩ := pair
    exact sending.given frame _ called
  · simp at same

theorem positiveSize
    (sending : CompressedRun role flate config (.new incoming replies clock) opts trace sender) :
    ∀ size, opts.fragmentSize = some size → 0 < size := by
  intro size set
  simp only [Negotiation.fragmentSize, Option.map_eq_some_iff] at set
  obtain ⟨size, set, rfl⟩ := set
  exact sending.positive size set

/-- The pieces of the messages went through the compressor one after the other, and
what came out was handed on with replies in between. -/
theorem handed
    (sending : CompressedRun role flate config (.new incoming replies clock) opts trace sender) :
    ∃ done, done ++ sender.fragmentLayer.outgoingFragments =
        (trace.filterMap Call.accepted).flatMap (pieces opts.fragmentSize) ∧
      (Streaming.new flate (.new incoming replies clock) opts).sender.sendAll done =
        some (dataFrames sender.handed, sender.streaming.sender) ∧
      ∀ frame ∈ sender.handed, frame.Automatic ∨ frame ∈ dataFrames sender.handed := by
  obtain ⟨done, sent, replied, progress, split, -⟩ :=
    (Conserved.new flate sending.healthy).run sending.run sending.unclosed (.inr sending.fine)
  rw [List.nil_append] at split
  have automatic : ∀ frame ∈ replied, frame.Automatic := by
    intro frame member
    exact progress.control frame (by simp [progress.owed, member])
  have data : dataFrames sender.handed = sent := by
    refine progress.handed.filter_eq _ (fun frame member => ?_) fun frame member => ?_
    · simp [(automatic frame member).control]
    · obtain ⟨item, given, same⟩ := Sender.sendAll_mem progress.prepared member
      have piece : item ∈ (trace.filterMap Call.accepted).flatMap (pieces opts.fragmentSize) := by
        rw [Negotiation.fragmentSize, split]
        exact List.mem_append_left _ given
      have data := pieces_data sending.accepted item piece
      have opcode : item.opcode = frame.opcode := congrArg (·.1) same
      simp [← opcode, data]
  rw [data]
  refine ⟨done, split.symm, progress.prepared, fun frame member => ?_⟩
  exact ((progress.handed.mem frame).mp member).imp_left (automatic frame)

/-- The peer's decoder lets all of it through. -/
theorem sendable
    (sending : CompressedRun role flate config (.new incoming replies clock) opts trace sender)
    {maxPayloadSize : UInt64}
    (fits : ∀ frame ∈ sender.handed, frame.payload.length < maxPayloadSize.toNat) :
    ∀ frame ∈ sender.handed, Sendable role maxPayloadSize frame := by
  intro frame member
  obtain ⟨done, split, sent, kinds⟩ := sending.handed
  rcases kinds frame member with automatic | data
  · refine ⟨fun _ => automatic.fin, ?_, fits frame member, fun _ => automatic.unmasked⟩
    intro ping
    rcases automatic.opcode with pong | close
    · simp [ping] at pong
    · simp [ping] at close
  · obtain ⟨item, given, same⟩ := Sender.sendAll_mem sent data
    have piece : item ∈ (trace.filterMap Call.accepted).flatMap (pieces opts.fragmentSize) := by
      rw [← split]
      exact List.mem_append_left _ given
    have mask : item.mask = frame.mask := congrArg (·.2.2) same
    have kind : frame.opcode.isControl = false := by simpa [dataFrames] using (List.mem_filter.mp data).2
    refine ⟨by simp [kind], ?_, fits frame member, fun server => ?_⟩
    · intro ping
      simp [ping, OpCode.isControl] at kind
    · rw [← mask]
      exact pieces_unmasked sending.positiveSize sending.accepted server item piece

end CompressedRun

private theorem dataFrames_content (frames : List Frame) :
    (dataFrames frames).map Frame.content =
      (frames.map Frame.content).filter (!·.2.1.isControl) := by
  rw [List.filter_map]
  rfl

section Delivery

variable (codec : Restoration)

/-- A new connection expects the messages that are still to arrive. -/
theorem Expects.new {flate : Flate} {opts : Negotiation} {config : CompressionConfig}
    {arrivals : List Arrival} {messages items : List Frame} {sender : Sender}
    (answers : List Reply) (now : Nat) (compressed : opts.compression = some config)
    (inflates : flate.decompress config = codec.decompress)
    (deflating : sender.deflate = some { output := codec.compress, calls := [] })
    (idle : sender.streaming = false) (frames : OnlyFrames arrivals)
    (ships : Ships codec sender items (arriving arrivals))
    (carries : Carries none messages items)
    (timely : ∀ timeout, opts.fragmentation.bind (·.timeout) = some timeout →
      Timely timeout none arrivals)
    (allowed : ∀ message ∈ messages,
      (WebSocket.new flate (.new arrivals answers now) opts).limits.Allows message ∧
        message.payload.length < opts.maxPayloadRead.toNat) :
    Expects codec (WebSocket.new flate (.new arrivals answers now) opts).limits messages
      (finished (arriving arrivals)) arrivals.length
      (.new flate (.new arrivals answers now) opts) where
  reading := rfl
  same := rfl
  allowed := allowed
  frames := frames
  shipped := by
    have calls : sender.calls = [] := by simp [Sender.calls, deflating]
    refine ⟨sender, items, [], ⟨?_, ⟨[], ?_, ?_⟩, ?_⟩, ships, carries, ?_, fun _ => rfl⟩
    · rw [calls]
      exact deflating
    · simp [WebSocket.new, Streaming.new, compressed, Flate.decompressor, inflates]
    · rw [calls]
      exact codec.start
    · exact idle.symm
    · exact idle
  timely := timely
  buffered := by
    intro fragment set
    simp [WebSocket.new, FragmentLayer.new] at set
  ends := rfl
  within := Nat.le_refl _

/-- Through a compressor and a decompressor that restores what it took, the peer
delivers the messages in order and unchanged, as far as they end before a Close. -/
theorem CompressedRun.delivered {role : Role} {flate peerFlate : Flate}
    {config peerConfig : CompressionConfig} {opts peerOpts : Negotiation} {cpu encoderCpu : Cpu}
    {incoming arrivals : List Arrival} {replies answers : List Reply} {clock now : Nat}
    {trace received : List (Call × Answer)} {sender peer : WebSocket}
    (deflates : flate.compress config = codec.compress)
    (inflates : peerFlate.decompress peerConfig = codec.decompress)
    (sending : CompressedRun role flate config (.new incoming replies clock) opts trace sender)
    (fair : codec.Honest sender.streaming.sender.calls)
    (wire : Wire cpu encoderCpu role peerOpts.maxPayloadRead sender.handed arrivals)
    (framesFit : ∀ frame ∈ sender.handed, frame.payload.length < peerOpts.maxPayloadRead.toNat)
    (compressed : peerOpts.compression = some peerConfig)
    (messagesFit : ∀ message ∈ trace.filterMap Call.accepted,
      message.payload.length < peerOpts.maxReadBuffer.toNat ∧
        message.payload.length < peerOpts.maxPayloadRead.toNat)
    (valid : peerOpts.utf8 → ∀ message ∈ trace.filterMap Call.accepted,
      message.opcode = .text → fromUtf8 message.payload)
    (timely : ∀ timeout, peerOpts.fragmentation.bind (·.timeout) = some timeout →
      Timely timeout none arrivals)
    (receiving : Trace.Run WebSocket.step (fun _ _ => True)
      (.new peerFlate (.new arrivals answers now) peerOpts) received peer) :
    let messages := trace.filterMap Call.accepted
    let delivered := (dataFrames (received.filterMap (·.2.delivered))).map Frame.content
    delivered <+: messages.map Frame.content ∧
    (arrivals.length ≤ reads (received.map Prod.fst) →
      delivered = (messages.take (finished sender.handed)).map Frame.content ∧
      (NoClose sender.handed → sender.fragmentLayer.outgoingFragments = [] →
        delivered = messages.map Frame.content)) := by
  intro messages delivered
  have given := sending.accepted
  have positive := sending.positiveSize
  obtain ⟨done, split, sent, -⟩ := sending.handed
  have arrived := wire.arrived (sending.sendable framesFit)
  have deflating : (Streaming.new flate (.new incoming replies clock) opts).sender.deflate =
      some { output := codec.compress, calls := [] } := by
    simp [Streaming.sender, Streaming.new, sending.compressed, Flate.compressor, deflates]
  have same : (dataFrames (arriving arrivals)).map Frame.content =
      (dataFrames sender.handed).map Frame.content := by
    rw [dataFrames_content, dataFrames_content, arrived]
  have ships := Ships.of_sendAll (by rw [deflating]; rfl) sent fair same
  have carries : Carries none messages done := by
    have all := pieces_carry positive given
    rw [← split] at all
    exact all.cut
  have expects := Expects.new codec answers now compressed inflates deflating rfl wire.frames ships
    carries timely fun message member =>
      ⟨⟨(given message member).data, (given message member).whole, (given message member).plain,
        (messagesFit message member).1, fun text check => valid check message member text⟩,
        (messagesFit message member).2⟩
  rw [finished_arrived arrived] at expects
  have begins : Gets codec (WebSocket.new peerFlate (.new arrivals answers now) peerOpts).limits
      messages (finished sender.handed) arrivals.length []
      (.new peerFlate (.new arrivals answers now) peerOpts) :=
    ⟨[], messages, rfl, rfl, .inr ⟨_, Nat.zero_add _, expects⟩⟩
  have gets := begins.run receiving
  rw [List.nil_append] at gets
  refine ⟨?_, fun enough => ?_⟩
  · obtain ⟨done, later, split, same, -⟩ := gets
    rw [split, List.map_append, ← same]
    exact List.prefix_append _ _
  · rw [Nat.sub_eq_zero_of_le enough] at gets
    have complete := gets.finish
    refine ⟨complete, fun noClose flushed => ?_⟩
    have all : finished sender.handed = messages.length := by
      have counts := congrArg (List.countP fun outline => outline.2.1) (Sender.sendAll_outline sent)
      rw [List.countP_map, List.countP_map] at counts
      rw [flushed, List.append_nil] at split
      rw [finished_noClose noClose]
      exact counts.trans (by rw [split]; exact pieces_count positive given)
    rw [← List.take_length (l := messages), ← all]
    exact complete

end Delivery

end Yawc

namespace Yawc.Pooling

variable {Compress Decompress Compress' Decompress' : Type}

/-- Calls on a compressor of a connection. The n-th finds the n-th chunks. -/
def deflating (flate : Codec UInt32 FlushCompress Compress) (config : HalfConfig)
    (rooms : Nat → List Room) : Trace.Step (Nat × Deflate Compress) (Bytes × Bool) (Result Bytes) :=
  fun (count, self) (input, flush) =>
    (self.serve flate config (rooms count) input flush).map fun (result, next) =>
      (result, (count + 1, next))

/-- Calls on a decompressor, likewise, with as many chunks as they ask for. -/
def inflating (flate : Codec Unit FlushDecompress Decompress) (config : HalfConfig)
    (rooms : Nat → Nat → Room) :
    Trace.Step (Nat × Inflate Decompress) (Bytes × Bool × Nat) (Result Bytes) :=
  fun (count, self) (input, streamEnd, maxOutputSize) =>
    (self.serve flate config
      ((List.range (Inflate.rounds input maxOutputSize)).map (rooms count)) input streamEnd
      maxOutputSize).map fun (result, next) => (result, (count + 1, next))

/-- What the last call returns. One that does not return counts as failed. -/
def lastResult {State Input : Type} (step : Trace.Step State Input (Result Bytes)) (start : State)
    (calls : List Input) (input : Input) : Result Bytes :=
  ((Trace.exec step start calls).bind fun (_, state) => (step state input).map Prod.fst).getD
    (.error (.ioError ""))

/-- The errors of the wrappers are those of I/O, but for output that is too large. -/
def toInflateError : WebSocketError → InflateError
  | .frameTooLarge => .frameTooLarge
  | .ioError message => .io message
  | other => .io other.toString

def toMessage : WebSocketError → String
  | .ioError message => message
  | other => other.toString

/-- Compressors and decompressors as the library wraps them. -/
def wrapping (flate : Flate2 Compress Decompress) (backend : Backend) (rooms : Nat → List Room)
    (chunks : Nat → Nat → Room) : Flate where
  compress config calls input flush :=
    (lastResult (deflating flate.compress config.outgoing rooms)
      (0, .build flate.compress backend config.level config.outgoing.windowBits) calls
      (input, flush)).mapError toMessage
  decompress config calls input streamEnd maxOutputSize :=
    (lastResult (inflating flate.decompress config.incoming chunks)
      (0, .build flate.decompress backend config.incoming.windowBits) calls
      (input, streamEnd, maxOutputSize)).mapError toInflateError

private theorem lastResult_ok {State Input : Type} {step : Trace.Step State Input (Result Bytes)}
    {start state : State} {calls : List Input} {input : Input}
    {trace : List (Input × Result Bytes)} {bytes : Bytes}
    (reached : Trace.exec step start calls = some (trace, state))
    (returned : lastResult step start calls input = .ok bytes) :
    ∃ next, step state input = some (.ok bytes, next) := by
  simp only [lastResult, reached, Option.bind_some] at returned
  cases taken : step state input with
  | none => simp [taken] at returned
  | some outcome =>
    obtain ⟨result, next⟩ := outcome
    simp only [taken, Option.map_some, Option.getD_some] at returned
    exact ⟨next, by rw [returned]⟩

private theorem lastResult_of_step {State Input : Type}
    {step : Trace.Step State Input (Result Bytes)}
    {start state next : State} {calls : List Input} {input : Input} {result : Result Bytes}
    {trace : List (Input × Result Bytes)}
    (reached : Trace.exec step start calls = some (trace, state))
    (taken : step state input = some (result, next)) :
    lastResult step start calls input = result := by
  simp [lastResult, reached, taken]

/-- With as many chunks as it asks for, a call returns. -/
theorem Inflate.serve_returns {flate : Codec Unit FlushDecompress Decompress}
    (bounded : flate.Bounded) {inflate : Inflate Decompress} (empty : inflate.output = [])
    (config : HalfConfig) (chunks : Nat → Room) (input : Bytes) (streamEnd : Bool)
    (maxOutputSize : Nat) :
    ∃ result next, inflate.serve flate config
      ((List.range (rounds input maxOutputSize)).map chunks) input streamEnd maxOutputSize =
        some (result, next) := by
  have enough : rounds input maxOutputSize ≤
      ((List.range (rounds input maxOutputSize)).map chunks).length := by simp
  obtain ⟨result, next, -, returned, -⟩ := decompress_within bounded empty streamEnd enough
  simp only [serve, returned, Option.map_some]
  exact ⟨_, _, rfl⟩

private theorem ok_of_mapError {Error Error' Value : Type} {change : Error → Error'}
    {result : Except Error Value} {value : Value} (returned : result.mapError change = .ok value) :
    result = .ok value := by
  cases result with
  | error error => simp [Except.mapError] at returned
  | ok other => exact congrArg Except.ok (Except.ok.inj returned)

namespace Ends

/-- The settings that two connections run this direction with. -/
structure Between (ends : Ends Compress Decompress) (config : CompressionConfig)
    (backend peerBackend : Backend) : Prop where
  level : config.level = ends.level
  sending : builtWindow backend config.outgoing.windowBits = ends.sending
  receiving : builtWindow peerBackend config.outgoing.windowBits = ends.receiving

/-- No flush among the calls meets a false marker. -/
def Honest (ends : Ends Compress Decompress) (backend : Backend) (config : CompressionConfig)
    (rooms : Nat → List Room) (calls : List (Bytes × Bool)) : Prop :=
  ∀ front input back, calls = front ++ (input, true) :: back → ∀ trace count deflate,
    Trace.exec (deflating ends.deflater config.outgoing rooms)
        (0, .build ends.deflater backend config.level config.outgoing.windowBits) front =
      some (trace, count, deflate) →
    deflate.Flushes ends.deflater ends.queue (rooms count) input

variable {ends : Ends Compress Decompress} {backend peerBackend : Backend}
  {config peerConfig : CompressionConfig}

private theorem Honest.front {rooms : Nat → List Room} {calls more : List (Bytes × Bool)}
    (honest : ends.Honest backend config rooms (calls ++ more)) :
    ends.Honest backend config rooms calls := by
  intro front input back split
  exact honest front input (back ++ more) (by simp [split])

/-- The compressor of one connection and the decompressor of the other. -/
def restoration (between : ends.Between config backend peerBackend)
    (mirrored : config.outgoing = peerConfig.incoming)
    (other : Codec Unit FlushDecompress Decompress') (peerOther : Codec UInt32 FlushCompress Compress')
    (rooms peerRooms : Nat → List Room) (chunks peerChunks : Nat → Nat → Room) : Restoration where
  compress := (wrapping ⟨ends.deflater, other⟩ backend rooms chunks).compress config
  decompress :=
    (wrapping ⟨peerOther, ends.inflater⟩ peerBackend peerRooms peerChunks).decompress peerConfig
  Honest := ends.Honest backend config rooms
  Behind calls done behind := ∃ trace count deflate trace' count' inflate,
    Trace.exec (deflating ends.deflater config.outgoing rooms)
        (0, .build ends.deflater backend config.level config.outgoing.windowBits) calls =
      some (trace, count, deflate) ∧
    Trace.exec (inflating ends.inflater peerConfig.incoming peerChunks)
        (0, .build ends.inflater peerBackend peerConfig.incoming.windowBits) done =
      some (trace', count', inflate) ∧
    ends.Behind deflate inflate behind
  front := Honest.front
  start := by
    refine ⟨[], 0, _, [], 0, _, rfl, rfl, ?_⟩
    rw [Deflate.build_eq ends.deflater_lawful, Inflate.build_eq ends.inflater_lawful,
      between.level, between.sending, ← mirrored, between.receiving]
    exact .fresh rfl rfl rfl rfl rfl
  step := by
    intro calls done behind lags input flush output honest compressed bound small
    obtain ⟨trace, count, deflate, trace', count', inflate, sent, received, lags⟩ := lags
    obtain ⟨next, taken⟩ := lastResult_ok sent (ok_of_mapError compressed)
    obtain ⟨⟨_, deflate'⟩, served, same⟩ := Option.map_eq_some_iff.mp taken
    simp only [Prod.mk.injEq] at same
    obtain ⟨rfl, rfl⟩ := same
    obtain ⟨result, inflate', returned⟩ := Inflate.serve_returns ends.bounded lags.drained
      peerConfig.incoming (peerChunks count') output flush bound
    obtain ⟨shown, rest, rfl, split, ended, lags'⟩ := lags.step (congrArg HalfConfig.noContextTakeover mirrored)
      (fun flushing => honest calls input [] (by rw [flushing]) trace count deflate sent) served
      small returned
    have restored : inflating ends.inflater peerConfig.incoming peerChunks (count', inflate)
        (output, flush, bound) = some (.ok shown, count' + 1, inflate') := by
      simp only [inflating, returned, Option.map_some]
    refine ⟨shown, rest, ?_, split, ended, trace ++ [((input, flush), .ok output)], count + 1,
      deflate', trace' ++ [((output, flush, bound), .ok shown)], count' + 1, inflate', ?_, ?_, lags'⟩
    · simp only [wrapping, lastResult_of_step received restored, Except.mapError]
    · simp only [Trace.exec_snoc, sent, Option.bind_some, taken, Option.map_some]
    · simp only [Trace.exec_snoc, received, Option.bind_some, restored, Option.map_some]

end Ends

end Yawc.Pooling

namespace Yawc

open Pooling

/-- The settings of a connection and its peer came out of one handshake. -/
def Agreed (opts peerOpts : Negotiation) : Role → Prop
  | .client => Mirrored opts peerOpts
  | .server => Mirrored peerOpts opts

private theorem Agreed.compression {role : Role} {opts peerOpts : Negotiation}
    {config : CompressionConfig}
    (agreed : Agreed opts peerOpts role) (compressed : opts.compression = some config) :
    ∃ peerConfig, peerOpts.compression = some peerConfig ∧
      config.outgoing = peerConfig.incoming := by
  cases peer : peerOpts.compression with
  | none => cases role <;> simp [Agreed, Mirrored, compressed, peer] at agreed
  | some peerConfig =>
    refine ⟨peerConfig, rfl, ?_⟩
    cases role with
    | client =>
      simp only [Agreed, Mirrored, compressed, peer] at agreed
      exact agreed.1
    | server =>
      simp only [Agreed, Mirrored, compressed, peer] at agreed
      exact agreed.2.symm

section Wrappers

variable {Compress Decompress Compress' Decompress' : Type}
  {ends : Pooling.Ends Compress Decompress} {backend peerBackend : Backend}
  {config : CompressionConfig}

/-- Two connections with the settings of one handshake: whatever chunks, pauses and
fragments there are, the peer delivers the messages in order and unchanged, as far as
they end before a Close. -/
theorem compressed_delivered (between : ends.Between config backend peerBackend)
    (other : Codec Unit FlushDecompress Decompress')
    (peerOther : Codec UInt32 FlushCompress Compress')
    (rooms peerRooms : Nat → List Room) (chunks peerChunks : Nat → Nat → Room)
    {role : Role} {opts peerOpts : Negotiation} {cpu encoderCpu : Cpu}
    {incoming arrivals : List Arrival} {replies answers : List Reply} {clock now : Nat}
    {trace received : List (Call × Answer)} {sender peer : WebSocket}
    (agreed : Agreed opts peerOpts role)
    (sending : CompressedRun role (wrapping ⟨ends.deflater, other⟩ backend rooms chunks) config
      (.new incoming replies clock) opts trace sender)
    (honest : ends.Honest backend config rooms sender.streaming.sender.calls)
    (wire : Wire cpu encoderCpu role peerOpts.maxPayloadRead sender.handed arrivals)
    (framesFit : ∀ frame ∈ sender.handed, frame.payload.length < peerOpts.maxPayloadRead.toNat)
    (messagesFit : ∀ message ∈ trace.filterMap Call.accepted,
      message.payload.length < peerOpts.maxReadBuffer.toNat ∧
        message.payload.length < peerOpts.maxPayloadRead.toNat)
    (valid : peerOpts.utf8 → ∀ message ∈ trace.filterMap Call.accepted,
      message.opcode = .text → fromUtf8 message.payload)
    (timely : ∀ timeout, peerOpts.fragmentation.bind (·.timeout) = some timeout →
      Timely timeout none arrivals)
    (receiving : Trace.Run WebSocket.step (fun _ _ => True)
      (.new (wrapping ⟨peerOther, ends.inflater⟩ peerBackend peerRooms peerChunks)
        (.new arrivals answers now) peerOpts) received peer) :
    let messages := trace.filterMap Call.accepted
    let delivered := (dataFrames (received.filterMap (·.2.delivered))).map Frame.content
    delivered <+: messages.map Frame.content ∧
    (arrivals.length ≤ reads (received.map Prod.fst) →
      delivered = (messages.take (finished sender.handed)).map Frame.content ∧
      (NoClose sender.handed → sender.fragmentLayer.outgoingFragments = [] →
        delivered = messages.map Frame.content)) := by
  obtain ⟨peerConfig, compressed, mirrored⟩ := agreed.compression sending.compressed
  exact CompressedRun.delivered
    (ends.restoration between mirrored other peerOther rooms peerRooms chunks peerChunks) rfl rfl
    sending honest wire framesFit compressed messagesFit valid timely receiving

end Wrappers

/-- Wrappers around stored blocks whose chunks all have the same size. -/
def storedFlate : Flate :=
  wrapping ⟨storing, reading⟩ .miniz (fun _ => .replicate 2 ⟨2048, by decide⟩)
    fun _ _ => ⟨2048, by decide⟩

def storedOptions : Negotiation :=
  { Negotiation.plain with
    compression := some ⟨0, ⟨false, none⟩, ⟨false, none⟩⟩
    maxPayloadRead := 32
    fragmentation := some ⟨none, some 2⟩ }

/-- A fragmented text: the sender's compressor writes a block for each of its two
frames, and a Pong stands in front of the second. -/
theorem compressed_delivered_hey :
    ∃ sender received peer,
      CompressedRun .server storedFlate ⟨0, ⟨false, none⟩, ⟨false, none⟩⟩
        (.new [.at 0 (.ping [7])]
          (List.replicate 2 (.ready (.ok ())) ++ .pending :: List.replicate 6 (.ready (.ok ()))) 0)
        storedOptions
        [(.startSend (.text [104, 101, 121]), .sent (.ok ())), (.pollFlush, .reply .pending),
          (.pollNextFrame, .read (.ready (.ok (.ping [7])))),
          (.pollFlush, .reply (.ready (.ok ())))] sender ∧
      sender.handed.map (·.payload) =
        [storedBlock [104, 101], [7], storedBlock [121] ++ [0x0]] ∧
      Trace.Run WebSocket.step (fun _ _ => True)
        (.new storedFlate (.new (sender.handed.map (.at 0)) [] 0) storedOptions) received peer ∧
      (dataFrames (received.filterMap (·.2.delivered))).map Frame.content =
        [Frame.text [104, 101, 121]].map Frame.content := by
  obtain ⟨sender, sending, handed, flushed, calls⟩ : ∃ sender,
      CompressedRun .server storedFlate ⟨0, ⟨false, none⟩, ⟨false, none⟩⟩
        (.new [.at 0 (.ping [7])]
          (List.replicate 2 (.ready (.ok ())) ++ .pending :: List.replicate 6 (.ready (.ok ()))) 0)
        storedOptions
        [(.startSend (.text [104, 101, 121]), .sent (.ok ())), (.pollFlush, .reply .pending),
          (.pollNextFrame, .read (.ready (.ok (.ping [7])))),
          (.pollFlush, .reply (.ready (.ok ())))] sender ∧
      sender.handed =
        [{ Frame.text (storedBlock [104, 101]) with fin := false, isCompressed := true },
          .pong [7], .continuation (storedBlock [121] ++ [0x0])] ∧
      sender.fragmentLayer.outgoingFragments = [] ∧
      sender.streaming.sender.calls = [([104, 101], false), ([121], true)] := by
    refine ⟨_, ⟨.of_exec [.startSend (.text [104, 101, 121]), .pollFlush, .pollNextFrame,
      .pollFlush] rfl, rfl, by simp [storedOptions], by simp [Framed.Healthy, Framed.new], by simp,
      by simp [Answer.failed], ?_⟩, rfl, rfl, rfl⟩
    intro frame answer member
    have same : frame = .text [104, 101, 121] := by simp_all
    subst same
    exact ⟨.inl rfl, rfl, rfl, fun _ => rfl⟩
  have honest : storedEnds.Honest .miniz ⟨0, ⟨false, none⟩, ⟨false, none⟩⟩
      (fun _ => .replicate 2 ⟨2048, by decide⟩) sender.streaming.sender.calls := by
    rw [calls]
    intro front input back split trace count deflate reached left next written
    -- Only the second call flushes, and all that is queued then fits into one chunk.
    obtain ⟨rfl, rfl⟩ : front = [([104, 101], false)] ∧ input = [121] := by
      rcases front with - | ⟨first, - | ⟨second, front⟩⟩ <;> simp_all
    cases reached
    cases written
    exact .inl (by decide)
  have fits : ∀ frame ∈ sender.handed, frame.payload.length < 32 := by
    rw [handed]
    decide
  have frames : OnlyFrames (sender.handed.map (Arrival.at 0)) := by
    simp [OnlyFrames, Arrival.at]
  have wire : Wire .scalar .scalar .server 32 sender.handed (sender.handed.map (Arrival.at 0)) := by
    exact .unmasked _ _ (sending.sendable fits) (by rw [handed]; rfl) frames
  obtain ⟨received, peer, receiving, often⟩ : ∃ received peer,
      Trace.Run WebSocket.step (fun _ _ => True)
        (.new storedFlate (.new (sender.handed.map (Arrival.at 0)) [] 0) storedOptions)
        received peer ∧ 3 ≤ reads (received.map Prod.fst) := by
    rw [handed]
    exact ⟨_, _, .of_exec [.pollNextFrame, .pollNextFrame, .pollNextFrame] rfl, by decide⟩
  have agreed : Agreed storedOptions storedOptions .server := ⟨rfl, rfl⟩
  have between : storedEnds.Between ⟨0, ⟨false, none⟩, ⟨false, none⟩⟩ .miniz .miniz :=
    ⟨rfl, rfl, rfl⟩
  have delivered := compressed_delivered between reading storing _ _ _ _ agreed sending honest wire
    fits (by decide) (by simp [storedOptions, Negotiation.plain]) (by simp [storedOptions]) receiving
  refine ⟨sender, received, peer, sending, by rw [handed]; rfl, receiving, ?_⟩
  exact (delivered.2 (by simpa [handed] using often)).2 (by rw [handed]; unfold NoClose; decide)
    flushed

end Yawc
