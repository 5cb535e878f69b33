import Yawc.Native.Messages
import Yawc.Native.Replies

/-! When the replies a connection owes are legal control frames. Their payloads
come from the peer's frames and from the texts of errors. -/

namespace Yawc

section Texts

private theorem utf8Width_ofNat {n : Nat} (byte : n < 256) :
    utf8Width (UInt8.ofNat n) =
      if n ≤ 0x7F then 1
      else if 0xC2 ≤ n ∧ n ≤ 0xDF then 2
      else if 0xE0 ≤ n ∧ n ≤ 0xEF then 3
      else if 0xF0 ≤ n ∧ n ≤ 0xF4 then 4
      else 0 := by
  simp [utf8Width, UInt8.le_iff_toNat_le, Nat.mod_eq_of_lt byte]

theorem between_ofNat (low high : Nat) {n : Nat} (above : low ≤ n) (below : n ≤ high) (byte : high < 256) :
    (UInt8.ofNat low ≤ UInt8.ofNat n && UInt8.ofNat n ≤ UInt8.ofNat high) = true := by
  have first : low % 256 = low := Nat.mod_eq_of_lt (by omega)
  have middle : n % 256 = n := Nat.mod_eq_of_lt (by omega)
  have last : high % 256 = high := Nat.mod_eq_of_lt byte
  simp [UInt8.le_iff_toNat_le, first, middle, last, above, below]

theorem utf8Trail_ofNat (n : Nat) : utf8Trail (UInt8.ofNat (n % 0x40 + 0x80)) :=
  between_ofNat 0x80 0xBF (by omega) (by omega) (by decide)

private theorem utf8Second_ofNat {first n : Nat} (byte : first < 256)
    (long : first = 0xE0 → 0x20 ≤ n % 0x40) (surrogate : first = 0xED → n % 0x40 < 0x20)
    (longer : first = 0xF0 → 0x10 ≤ n % 0x40) (high : first = 0xF4 → n % 0x40 < 0x10) :
    utf8Second (UInt8.ofNat first) (UInt8.ofNat (n % 0x40 + 0x80)) := by
  have is {other : Nat} (small : other < 256) (same : UInt8.ofNat first = UInt8.ofNat other) :
      first = other := by
    have numbers := congrArg UInt8.toNat same
    simpa [Nat.mod_eq_of_lt byte, Nat.mod_eq_of_lt small] using numbers
  unfold utf8Second
  split
  · rename_i same
    have least := long (is (by decide) same)
    exact between_ofNat 0xA0 0xBF (by omega) (by omega) (by decide)
  split
  · rename_i same
    have most := surrogate (is (by decide) same)
    exact between_ofNat 0x80 0x9F (by omega) (by omega) (by decide)
  split
  · rename_i same
    have least := longer (is (by decide) same)
    exact between_ofNat 0x90 0xBF (by omega) (by omega) (by decide)
  split
  · rename_i same
    have most := high (is (by decide) same)
    exact between_ofNat 0x80 0x8F (by omega) (by omega) (by decide)
  · exact utf8Trail_ofNat n

/-- A character's bytes are passed over. -/
theorem fromUtf8_char (char : Char) (rest : Bytes) :
    fromUtf8 (String.utf8EncodeChar char ++ rest) = fromUtf8 rest := by
  have valid := char.valid
  simp only [UInt32.isValidChar, Nat.isValidChar] at valid
  unfold String.utf8EncodeChar
  generalize char.val.toNat = v at valid ⊢
  dsimp only
  split
  · have width : utf8Width (UInt8.ofNat v) = 1 := by
      rw [utf8Width_ofNat (by omega), if_pos (by omega)]
    simp only [List.cons_append, List.nil_append]
    rw [fromUtf8.eq_2]
    simp only [width]
  split
  · have width : utf8Width (UInt8.ofNat (v / 64 % 32 + 192)) = 2 := by
      rw [utf8Width_ofNat (by omega), if_neg (by omega), if_pos (by omega)]
    simp only [List.cons_append, List.nil_append, fromUtf8, width, utf8Trail_ofNat, Bool.true_and]
  split
  · have width : utf8Width (UInt8.ofNat (v / 4096 % 16 + 224)) = 3 := by
      rw [utf8Width_ofNat (by omega), if_neg (by omega), if_neg (by omega), if_pos (by omega)]
    have second : utf8Second (UInt8.ofNat (v / 4096 % 16 + 224)) (UInt8.ofNat (v / 64 % 64 + 128)) :=
      utf8Second_ofNat (by omega) (by omega) (by omega) (by omega) (by omega)
    simp only [List.cons_append, List.nil_append, fromUtf8, width, utf8Trail_ofNat, second,
      Bool.true_and]
  · have width : utf8Width (UInt8.ofNat (v / 262144 % 8 + 240)) = 4 := by
      rw [utf8Width_ofNat (by omega), if_neg (by omega), if_neg (by omega), if_neg (by omega),
        if_pos (by omega)]
    have second : utf8Second (UInt8.ofNat (v / 262144 % 8 + 240))
        (UInt8.ofNat (v / 4096 % 64 + 128)) :=
      utf8Second_ofNat (by omega) (by omega) (by omega) (by omega) (by omega)
    simp only [List.cons_append, List.nil_append, fromUtf8, width, utf8Trail_ofNat, second,
      Bool.true_and]

/-- The bytes of a text are well formed. -/
theorem fromUtf8_textBytes (text : String) : fromUtf8 (textBytes text) := by
  unfold textBytes
  induction text.toList with
  | nil => rfl
  | cons char rest ih => rw [List.flatMap_cons, fromUtf8_char, ih]

private theorem length_textBytes_le (text : String) :
    (textBytes text).length ≤ 4 * text.length := by
  rw [← String.length_toList, textBytes]
  induction text.toList with
  | nil => simp
  | cons char rest ih =>
    have size := char.utf8Size_le_four
    rw [List.flatMap_cons, List.length_append, String.length_utf8EncodeChar, List.length_cons]
    omega

private theorem length_textBytes_replicate (count : Nat) (char : Char) :
    (textBytes (String.ofList (List.replicate count char))).length = count * char.utf8Size := by
  rw [textBytes, String.toList_ofList]
  induction count with
  | zero => simp
  | succ count ih =>
    rw [List.replicate_succ, List.flatMap_cons, List.length_append, String.length_utf8EncodeChar, ih]
    ring

/-- An error whose text fits into a Close. -/
def WebSocketError.Brief (error : WebSocketError) : Prop := (textBytes error.toString).length ≤ 123

/-- The errors of the codec and of the streaming layer that carry nothing. -/
theorem brief_checks : ∀ error ∈ [WebSocketError.invalidFragment, .invalidUTF8,
    .invalidCloseFrame, .invalidCloseCode, .reservedBitsNotZero, .controlFrameFragmented,
    .pingFrameTooLarge, .frameTooLarge, .compressionNotSupported], error.Brief := by
  unfold WebSocketError.Brief
  decide

private theorem brief_invalidOpCode (byte : UInt8) : (WebSocketError.invalidOpCode byte).Brief := by
  have digits : (ToString.toString byte.toNat).length ≤ 3 :=
    Nat.repr_length byte.toNat 3 (by decide) (Nat.lt_of_lt_of_le byte.toNat_lt (by decide))
  have before : "Invalid opcode (byte=".length = 21 := by decide
  have behind : ")".length = 1 := by decide
  calc (textBytes (WebSocketError.invalidOpCode byte).toString).length
    _ ≤ 4 * ("Invalid opcode (byte=" ++ ToString.toString byte.toNat ++ ")").length :=
      length_textBytes_le _
    _ ≤ 123 := by
      rw [String.length_append, String.length_append, before, behind]
      omega

end Texts

theorem length_closeFor (error : WebSocketError) :
    (Streaming.closeFor error).payload.length = 2 + (textBytes error.toString).length := by
  simp only [Streaming.closeFor, Frame.close, Frame.closeRaw, Frame.new, List.length_append,
    BigEndian.length_toBytes]

/-- A legal control frame, with a legal payload if it is a Close that has one. -/
structure Frame.Legal (frame : Frame) : Prop where
  control : frame.opcode.isControl
  fin : frame.fin
  plain : frame.isCompressed = false
  short : frame.payload.length ≤ 125
  close : frame.opcode = .close → frame.payload ≠ [] →
    ∃ code, frame.closeCode = some code ∧ code.isAllowed ∧ fromUtf8 (frame.payload.drop 2)

namespace Frame.Legal

private theorem pong {payload : Bytes} (short : payload.length ≤ 125) :
    (Frame.pong payload).Legal where
  control := rfl
  fin := rfl
  plain := rfl
  short := short
  close := by simp [Frame.pong, Frame.new]

/-- The reason of a Close is only read if it is well formed. -/
theorem closeReason_utf8 {frame : Frame} {reason : Option Bytes} (some : frame.payload ≠ [])
    (read : frame.closeReason = .ok reason) : fromUtf8 (frame.payload.drop 2) := by
  unfold Frame.closeReason at read
  split at read
  · rename_i empty
    exact absurd (List.isEmpty_iff.mp empty) some
  · split at read
    · simp at read
    · split at read
      · rename_i wellFormed
        exact wellFormed
      · simp at read

/-- A Close that passes the check is legal to be echoed, if it is short. -/
theorem echo {frame : Frame} (valid : Streaming.checkClose frame = .ok ())
    (short : frame.payload.length ≤ 125) : (Frame.closeRaw frame.payload).Legal where
  control := rfl
  fin := rfl
  plain := rfl
  short := short
  close := by
    intro _ nonempty
    unfold Streaming.checkClose at valid
    split at valid
    · rename_i empty
      exact absurd empty nonempty
    · simp at valid
    · split at valid
      · simp at valid
      · rename_i reason read
        split at valid
        · rename_i allowed
          cases code : frame.closeCode with
          | none => simp [code] at allowed
          | some code' => exact ⟨code', code, by simpa [code] using allowed, closeReason_utf8 nonempty read⟩
        · simp at valid

private theorem closeFor {error : WebSocketError} (brief : error.Brief) :
    (Streaming.closeFor error).Legal where
  control := rfl
  fin := rfl
  plain := rfl
  short := by
    unfold WebSocketError.Brief at brief
    rw [length_closeFor]
    omega
  close := by
    refine fun _ _ => ⟨error.closeCode, closeFor_closeCode error, ?_, ?_⟩
    · cases error <;> rfl
    · exact fromUtf8_textBytes _

end Frame.Legal

namespace Decoder

variable (cpu : Cpu) (role : Role) (maxPayloadSize : UInt64)

private theorem parseHeader_brief {src : Bytes} {error : WebSocketError}
    (refused : parseHeader src = .error error) : error.Brief := by
  unfold parseHeader at refused
  split at refused
  · split at refused
    · simp only [Except.error.injEq] at refused
      exact brief_checks error (by simp [← refused])
    · split at refused
      · rename_i opcode
        simp only [Except.error.injEq] at refused
        subst refused
        unfold OpCode.tryFrom at opcode
        repeat' split at opcode
        all_goals simp only [reduceCtorEq, Except.error.injEq] at opcode
        exact opcode ▸ brief_invalidOpCode _
      · split at refused <;> simp at refused
  · simp at refused

private theorem validate_brief {self : Decoder} {header : Header} {error : WebSocketError}
    (refused : self.validate header = .error error) : error.Brief := by
  apply brief_checks
  unfold validate at refused
  split at refused
  · simp_all
  · split at refused
    · simp_all
    · split at refused
      · simp_all
      · simp at refused

/-- The errors of a fresh decoder fit into a Close. -/
theorem decode_brief {src : Bytes} {error : WebSocketError}
    (refused : ((new role maxPayloadSize).decode cpu src).1 = .error error) : error.Brief := by
  simp only [decode, show (new role maxPayloadSize).state = none from rfl] at refused
  rcases parsed : parseHeader src with cause | _ | ⟨header, body⟩
  · simp only [parsed, Except.error.injEq] at refused
    exact refused ▸ parseHeader_brief parsed
  · simp [parsed] at refused
  · simp only [parsed] at refused
    rcases valid : (new role maxPayloadSize).validate header with cause | ⟨⟩
    · simp only [valid, Except.error.injEq] at refused
      exact refused ▸ validate_brief valid
    · simp only [valid] at refused
      exact brief_checks error (by simp [complete_refuses refused])

/-- So do those of a whole stream. -/
theorem drainAll_brief (src : Bytes) {error : WebSocketError}
    (refused : (Incremental.drainAll (decode cpu) (new role maxPayloadSize) src).error =
      some error) : error.Brief := by
  generalize size : src.length = n
  induction n using Nat.strongRecOn generalizing src with
  | ind n ih =>
    rw [(decode_resumable cpu).drainAll_eq] at refused
    have cause := @decode_brief cpu role maxPayloadSize src
    have verdict := decode_verdict cpu role maxPayloadSize src
    generalize (new role maxPayloadSize).decode cpu src = call at refused verdict cause
    cases verdict with
    | waits none next rest => simp at refused
    | refuses other next rest first => exact cause (by simpa using refused)
    | reads wire rest first taken shorter =>
      exact ih rest.length (by omega) rest (by simpa [Incremental.Run.prepend] using refused) rfl

private theorem feed_brief (chunks : List Bytes) {error : WebSocketError}
    (refused : (Incremental.feed (decode cpu) (new role maxPayloadSize) [] chunks).error =
      some error) : error.Brief := by
  rw [(decode_resumable cpu).feed_eq _ [] chunks (new_idle cpu role maxPayloadSize)] at refused
  exact drainAll_brief cpu role maxPayloadSize _ refused

/-- A Ping that is read is short. -/
theorem feed_ping (chunks : List Bytes) {frame : Frame}
    (read : frame ∈ (Incremental.feed (decode cpu) (new role maxPayloadSize) [] chunks).items)
    (ping : frame.opcode = .ping) : frame.payload.length ≤ 125 := by
  rw [(feed_reads cpu role maxPayloadSize chunks).items, List.mem_map] at read
  obtain ⟨wire, member, rfl⟩ := read
  have opcode : wire.header.opcode = .ping := ping
  have taken := accepts_of_mem_takeWhile role maxPayloadSize member
  rw [accepts, Bool.and_eq_true] at taken
  have legal := legalControl_of_valid role maxPayloadSize taken.1
    (length_body_framesOf ((List.takeWhile_prefix _).subset member)) (by simp [opcode])
  rw [WireFrame.length_readBy]
  exact (legal (by simp [opcode, OpCode.isControl])).2

end Decoder

/-- The frames and errors that arrive are what the decoder makes of the bytes the
peer sends, however these are cut up, or I/O errors of the transport. -/
structure FromWire (cpu : Cpu) (role : Role) (maxPayloadSize : UInt64) (chunks : List Bytes)
    (incoming : List Arrival) : Prop where
  frames : arriving incoming <+:
    (Incremental.feed (Decoder.decode cpu) (.new role maxPayloadSize) [] chunks).items
  errors : ∀ arrival ∈ incoming, ∀ error, arrival.item = .ready (some (.error error)) →
    error.isIo ∨
      (Incremental.feed (Decoder.decode cpu) (.new role maxPayloadSize) [] chunks).error = some error

/-- What can be answered by a legal frame: Pings and Closes of at most 125 bytes,
and errors whose text fits. -/
structure Arrival.Answerable (arrival : Arrival) : Prop where
  frame : ∀ frame : Frame, arrival.item = .ready (some (.ok frame)) →
    frame.opcode = .ping ∨ frame.opcode = .close → frame.payload.length ≤ 125
  error : ∀ error, arrival.item = .ready (some (.error error)) → error.Brief

/-- The inflater's errors fit into a Close. -/
def Decompressor.Brief (self : Decompressor) : Prop :=
  ∀ calls input streamEnd maxOutputSize message,
    self.output calls input streamEnd maxOutputSize = .error (.io message) →
    (WebSocketError.ioError message).Brief

/-- Everything owed is legal, and so will be what is owed for the arrivals. -/
structure Proper (connection : Streaming) : Prop where
  queued : ∀ frame ∈ connection.queued, frame.Legal
  incoming : ∀ arrival ∈ connection.stream.incoming, arrival.Answerable
  inflate : ∀ inflate, connection.inflate = some inflate → inflate.Brief

namespace Proper

variable {s after : Streaming}

theorem same (proper : Proper s) (reader : s.SameReader after) : Proper after where
  queued := by rw [reader.queued]; exact proper.queued
  incoming := by rw [reader.stream.incoming]; exact proper.incoming
  inflate := by rw [reader.inflate]; exact proper.inflate

private theorem takes (proper : Proper s) {later : Framed} (readHalf : ReadHalf)
    {item : Poll (Option (Result Frame))} (takes : s.stream.Takes later item) :
    Proper { s with stream := later, readHalf } :=
  { proper with incoming := fun arrival member => proper.incoming arrival (takes.suffix.subset member) }

theorem oblige (proper : Proper s) {frame : Frame} (legal : frame.Legal) : Proper (s.oblige frame) :=
  { proper with
    queued := by
      intro owed member
      rcases List.mem_append.mp member with before | last
      · exact proper.queued owed before
      · rwa [List.mem_singleton.mp last] }

theorem emitClose (proper : Proper s) {frame : Frame} (legal : frame.Legal) :
    Proper (s.emitClose frame) :=
  { proper.oblige legal with }

/-- What is read next is answerable. -/
theorem answerable (proper : Proper s) {later : Framed} {value : Option (Result Frame)}
    (takes : s.stream.Takes later (.ready value)) :
    ∃ arrival : Arrival, arrival.item = .ready value ∧ arrival.Answerable := by
  obtain ⟨skipped, -, arrival, same, split, -⟩ := takes.taken
  exact ⟨arrival, same, proper.incoming arrival (by simp [split])⟩

/-- Inflating keeps to short texts. -/
theorem inflateFrame (proper : Proper s) (frame : Frame) (maxOutputSize : Nat) :
    Proper (s.inflateFrame frame maxOutputSize).2 ∧
      ∀ error, (s.inflateFrame frame maxOutputSize).1 = .error error → error.Brief := by
  unfold Streaming.inflateFrame
  split
  · split
    · refine ⟨proper, fun error refused => brief_checks error ?_⟩
      simp only [Except.error.injEq] at refused
      simp [← refused]
    · rename_i inflate found
      refine ⟨{ proper with inflate := ?_ }, ?_⟩
      · intro next same
        simp only [Decompressor.decompress, Option.some.injEq] at same
        subst same
        exact proper.inflate inflate found
      · intro error refused
        simp only [Decompressor.decompress] at refused
        cases output : inflate.output inflate.calls frame.payload frame.fin maxOutputSize with
        | ok _ => simp [output, Except.map, Except.mapError] at refused
        | error cause =>
          cases cause with
          | frameTooLarge =>
            simp only [output, Except.map, Except.mapError, InflateError.toError,
              Except.error.injEq] at refused
            exact brief_checks error (by simp [← refused])
          | io message =>
            simp only [output, Except.map, Except.mapError, InflateError.toError,
              Except.error.injEq] at refused
            exact refused ▸ proper.inflate inflate found _ _ _ _ message output
  · exact ⟨proper, by simp⟩

private theorem onData (proper : Proper s) (frame : Frame) (maxReadBuffer : Nat) :
    Proper (s.onData frame maxReadBuffer).2 ∧
      ∀ error, (s.onData frame maxReadBuffer).1 = .error error → error.Brief := by
  have inflated := proper.inflateFrame frame (s.maxOutputSize frame maxReadBuffer)
  unfold Streaming.onData
  dsimp only
  generalize s.inflateFrame frame (s.maxOutputSize frame maxReadBuffer) = result at inflated
  rcases result with ⟨error | received, next⟩
  · exact inflated
  · dsimp only
    split
    · refine ⟨inflated.1, fun error refused => brief_checks error ?_⟩
      simp only [Except.error.injEq] at refused
      simp [← refused]
    · exact ⟨inflated.1, by simp⟩

private theorem checkClose_brief {frame : Frame} {error : WebSocketError}
    (invalid : Streaming.checkClose frame = .error error) : error.Brief := by
  apply brief_checks
  unfold Streaming.checkClose at invalid
  split at invalid
  · simp at invalid
  · simp_all
  · split at invalid
    · rename_i reason
      simp only [Except.error.injEq] at invalid
      subst invalid
      unfold Frame.closeReason at reason
      split at reason
      · simp at reason
      · split at reason
        · simp_all
        · split at reason <;> simp_all
    · split at invalid
      · simp at invalid
      · simp_all

/-- An answerable frame is answered by a legal one, or refused with a short text. -/
theorem onFrame (proper : Proper s) {frame : Frame} {maxReadBuffer : Nat} {result : Result Frame}
    (taken : s.onFrame frame maxReadBuffer = (result, after))
    (short : frame.opcode = .ping ∨ frame.opcode = .close → frame.payload.length ≤ 125) :
    Proper after ∧ ∀ error, result = .error error → error.Brief := by
  have outcome := s.onFrame_outcome frame maxReadBuffer
  rw [taken] at outcome
  cases outcome with
  | ping opcode => exact ⟨proper.oblige (.pong (short (.inl opcode))), by simp⟩
  | pong _ => exact ⟨proper, by simp⟩
  | close opcode valid => exact ⟨proper.emitClose (.echo valid (short (.inr opcode))), by simp⟩
  | badClose _ invalid =>
    refine ⟨proper, fun error refused => ?_⟩
    simp only [Except.error.injEq] at refused
    exact refused ▸ checkClose_brief invalid
  | data _ data =>
    have kept := proper.onData frame maxReadBuffer
    rwa [data] at kept

/-- Reading keeps to legal replies. -/
theorem pollNextFrameWithLimit (proper : Proper s) (maxReadBuffer : Nat) :
    Proper (s.pollNextFrameWithLimit maxReadBuffer).2 := by
  have step := s.pollNextFrameWithLimit_step maxReadBuffer
  generalize s.pollNextFrameWithLimit maxReadBuffer = result at step ⊢
  cases step with
  | closed _ => exact proper.same (s.silent_flushes (.inr rfl)).1.reader
  | silent _ takes =>
    exact (proper.takes _ takes).same (Streaming.silent_flushes _ (.inl rfl)).1.reader
  | ended _ takes =>
    exact (proper.takes _ takes).same (Streaming.silent_flushes _ (.inr rfl)).1.reader
  | failed _ takes _ =>
    obtain ⟨arrival, same, answerable⟩ := proper.answerable takes
    exact (proper.takes _ takes).emitClose (.closeFor (answerable.error _ same))
  | accepted _ takes done =>
    obtain ⟨arrival, same, answerable⟩ := proper.answerable takes
    have short := answerable.frame _ same
    exact ((proper.takes _ takes).onFrame done short).1
  | refused _ takes done _ =>
    obtain ⟨arrival, same, answerable⟩ := proper.answerable takes
    have short := answerable.frame _ same
    obtain ⟨kept, brief⟩ := (proper.takes _ takes).onFrame done short
    exact kept.emitClose (.closeFor (brief _ rfl))

end Proper

section

variable {flate : Flate} {cpu : Cpu} {role : Role} {chunks : List Bytes} {incoming : List Arrival}
  {replies : List Reply} {clock : Nat} {opts : Negotiation}

private theorem Proper.new (wire : FromWire cpu role opts.maxPayloadRead chunks incoming)
    (closes : ∀ frame ∈ arriving incoming, frame.opcode = .close → frame.payload.length ≤ 125)
    (texts : ∀ arrival ∈ incoming, ∀ message,
      arrival.item = .ready (some (.error (.ioError message))) → (textBytes message).length ≤ 123)
    (inflates : ∀ config calls input streamEnd maxOutputSize message,
      flate.decompress config calls input streamEnd maxOutputSize = .error (.io message) →
      (textBytes message).length ≤ 123) :
    Proper (.new flate (.new incoming replies clock) opts) where
  queued := by simp [Streaming.new]
  incoming := by
    intro arrival member
    constructor
    · intro frame item opcode
      have present : frame ∈ arriving incoming :=
        List.mem_filterMap.mpr ⟨arrival, member, by simp [item]⟩
      rcases opcode with ping | close
      · exact Decoder.feed_ping cpu role opts.maxPayloadRead chunks (wire.frames.subset present) ping
      · exact closes frame present close
    · intro error item
      rcases wire.errors arrival member error item with io | refused
      · cases error with
        | ioError message => exact texts arrival member message item
        | _ => simp [WebSocketError.isIo] at io
      · exact Decoder.feed_brief cpu role opts.maxPayloadRead chunks refused
  inflate := by
    intro inflate found
    simp only [Streaming.new, Option.map_eq_some_iff] at found
    obtain ⟨config, -, rfl⟩ := found
    exact inflates config

/-- Every frame owed is legal in every run in which the Closes that arrive have at
most 125 bytes and the texts of I/O errors, be it of the transport or the
inflater, at most 123. -/
theorem replies_legal (wire : FromWire cpu role opts.maxPayloadRead chunks incoming)
    (closes : ∀ frame ∈ arriving incoming, frame.opcode = .close → frame.payload.length ≤ 125)
    (texts : ∀ arrival ∈ incoming, ∀ message,
      arrival.item = .ready (some (.error (.ioError message))) → (textBytes message).length ≤ 123)
    (inflates : ∀ config calls input streamEnd maxOutputSize message,
      flate.decompress config calls input streamEnd maxOutputSize = .error (.io message) →
      (textBytes message).length ≤ 123) :
    (∀ trace final,
      Trace.Run (fun (connection : Streaming) call => some (connection.step call))
        (fun _ _ => True) (.new flate (.new incoming replies clock) opts) trace final →
      ∀ frame ∈ final.queued, frame.Legal) ∧
    (∀ trace final,
      Trace.Run WebSocket.step (fun _ _ => True) (.new flate (.new incoming replies clock) opts)
        trace final →
      ∀ frame ∈ final.streaming.queued, frame.Legal) := by
  have fresh : Proper (.new flate (.new incoming replies clock) opts) :=
    .new wire closes texts inflates
  constructor
  · intro trace final run
    refine (run.keeps (motive := Proper) ?_ fresh).queued
    intro state call answer next _ taken proper
    have kept := Streaming.step_keeps (fun _ limit proper => proper.pollNextFrameWithLimit limit)
      (fun reader proper => proper.same reader) proper call
    simp only [Option.some.injEq] at taken
    rwa [taken] at kept
  · intro trace final run
    refine (run.keeps (motive := fun state => Proper state.streaming) ?_ fresh).queued
    intro state call answer next _ taken proper
    exact WebSocket.step_keeps (fun _ limit proper => proper.pollNextFrameWithLimit limit)
      (fun reader proper => proper.same reader) taken proper

end

/-- A Ping off the wire is answered by a legal Pong. -/
theorem replies_legal_ping :
    ∃ final,
      FromWire .scalar .client Negotiation.plain.maxPayloadRead [[0x89, 1], [7]]
        [.at 0 (.ping [7])] ∧
      Trace.Run (fun (connection : Streaming) call => some (connection.step call))
        (fun _ _ => True) (.new .stored (.new [.at 0 (.ping [7])] [] 0) .plain)
        [(.pollNextFrame, .read (.ready (.ok (.ping [7]))))] final ∧
      final.queued = [.pong [7]] ∧ ∀ frame ∈ final.queued, frame.Legal := by
  have run : ∃ final,
      Trace.Run (fun (connection : Streaming) call => some (connection.step call))
        (fun _ _ => True) (.new .stored (.new [.at 0 (.ping [7])] [] 0) .plain)
        [(.pollNextFrame, .read (.ready (.ok (.ping [7]))))] final ∧
      final.queued = [.pong [7]] :=
    ⟨_, .of_exec [.pollNextFrame] rfl, by decide⟩
  obtain ⟨final, run, queued⟩ := run
  have wire : FromWire .scalar .client Negotiation.plain.maxPayloadRead [[0x89, 1], [7]]
      [.at 0 (.ping [7])] :=
    ⟨by decide, by simp [Arrival.at]⟩
  have legal := (replies_legal wire (by decide) (by simp [Arrival.at])
    (by simp [Flate.stored])).1 _ _ run
  exact ⟨final, wire, run, queued, legal⟩

/-- An I/O error of the transport. -/
def Arrival.fails (message : String) : Arrival :=
  { buffered := false, time := 0, item := .ready (some (.error (.ioError message))),
    notClosed := by simp }

/-- The text of an error is sent whole. -/
theorem error_sent (message : String) :
    ∃ trace final,
      Trace.Run (fun (connection : Streaming) call => some (connection.step call))
        (fun _ _ => True) (.new .stored (.new [.fails message] [] 0) .plain) trace final ∧
      final.queued = [Streaming.closeFor (.ioError message)] :=
  ⟨_, _, .of_exec [.pollNextFrame] rfl, rfl⟩

/-- A Close of 126 bytes, unmasked. -/
def longClose : Bytes := [0x88, 126, 0, 126, 3, 232] ++ List.replicate 124 97

/-- A Close of 126 bytes is echoed, and an error with a text of 124 bytes is
answered by a Close of 126. -/
theorem long_replies :
    (∃ incoming trace final,
      FromWire .scalar .client Negotiation.plain.maxPayloadRead [longClose] incoming ∧
      Trace.Run (fun (connection : Streaming) call => some (connection.step call))
        (fun _ _ => True) (.new .stored (.new incoming [] 0) .plain) trace final ∧
      ¬ ∀ frame ∈ final.queued, frame.Legal) ∧
    (∃ incoming trace final,
      FromWire .scalar .client Negotiation.plain.maxPayloadRead [] incoming ∧
      Trace.Run (fun (connection : Streaming) call => some (connection.step call))
        (fun _ _ => True) (.new .stored (.new incoming [] 0) .plain) trace final ∧
      ¬ ∀ frame ∈ final.queued, frame.Legal) := by
  constructor
  · have run : ∃ trace final,
        Trace.Run (fun (connection : Streaming) call => some (connection.step call))
          (fun _ _ => True)
          (.new .stored (.new [.at 0 (.closeRaw ([3, 232] ++ List.replicate 124 97))] [] 0) .plain)
          trace final ∧
        final.queued = [.closeRaw ([3, 232] ++ List.replicate 124 97)] :=
      ⟨_, _, .of_exec [.pollNextFrame] rfl, by decide +kernel⟩
    obtain ⟨trace, final, run, queued⟩ := run
    refine ⟨_, trace, final, ⟨?_, by simp [Arrival.at]⟩, run, fun legal => ?_⟩
    · decide +kernel
    · rw [queued] at legal
      have short := (legal _ (List.mem_singleton_self _)).short
      simp [Frame.closeRaw, Frame.new] at short
  · obtain ⟨message, size⟩ : ∃ message, (textBytes message).length = 124 :=
      ⟨String.ofList (List.replicate 124 'a'), length_textBytes_replicate 124 'a'⟩
    obtain ⟨trace, final, run, queued⟩ := error_sent message
    have wire : FromWire .scalar .client Negotiation.plain.maxPayloadRead [] [.fails message] :=
      ⟨by simp [arriving, Arrival.fails], by simp [Arrival.fails, WebSocketError.isIo]⟩
    refine ⟨_, trace, final, wire, run, fun legal => ?_⟩
    rw [queued] at legal
    have short := (legal _ (List.mem_singleton_self _)).short
    have text : (WebSocketError.ioError message).toString = message := rfl
    rw [length_closeFor, text, size] at short
    omega

end Yawc
