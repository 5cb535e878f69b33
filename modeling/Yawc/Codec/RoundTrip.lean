import Yawc.Codec.Chunking

/-! What one side encodes, the other side decodes. -/

namespace Yawc

/-- Encodes the frames back to back, each with the key drawn for it. -/
def Encoder.encodeAll (cpu : Cpu) (role : Role) (frames : List (Frame × Mask)) (dst : Bytes) :
    Bytes :=
  frames.foldl (fun dst sent => Encoder.encode cpu role sent.1 sent.2 dst) dst

/-- The frames an endpoint may send to a receiver with this limit. -/
structure Sendable (role : Role) (maxPayloadSize : UInt64) (frame : Frame) : Prop where
  controlWhole : frame.opcode.isControl → frame.fin
  pingSmall : frame.opcode = .ping → frame.payload.length ≤ 125
  payloadSmall : frame.payload.length < maxPayloadSize.toNat
  serverPlain : role = .server → frame.mask = none

/-- What a frame says, apart from how it was masked. -/
def Frame.content (frame : Frame) : Bool × OpCode × Bool × Bytes :=
  (frame.fin, frame.opcode, frame.isCompressed, frame.payload)

/-- The frame as it goes on the wire. -/
def Frame.sentBy (frame : Frame) (role : Role) (random : Mask) : Frame :=
  match role with
  | .client => frame.setRandomMaskIfNotSet random
  | .server => frame

section Header

private def firstByte (fin compressed : Bool) (opcode : OpCode) : UInt8 :=
  fin.toUInt8 <<< 7 ||| compressed.toUInt8 <<< 6 ||| opcode.toU8

variable (fin compressed : Bool) (opcode : OpCode)

private theorem firstByte_reserved : firstByte fin compressed opcode &&& 0b00110000 = 0 := by
  cases fin <;> cases compressed <;> cases opcode <;> decide

private theorem firstByte_opcode :
    OpCode.tryFrom (firstByte fin compressed opcode &&& 0b00001111) = .ok opcode := by
  cases fin <;> cases compressed <;> cases opcode <;> decide

private theorem firstByte_fin :
    decide (firstByte fin compressed opcode &&& 0b10000000 ≠ 0) = fin := by
  cases fin <;> cases compressed <;> cases opcode <;> decide

private theorem firstByte_rsv1 :
    decide (firstByte fin compressed opcode &&& 0b01000000 ≠ 0) = compressed := by
  cases fin <;> cases compressed <;> cases opcode <;> decide

private theorem lengthCode_or {code : Nat} (small : code < 128) (masked : Bool) :
    (UInt8.ofNat code ||| if masked then 0x80 else 0) &&& 0x7F = UInt8.ofNat code ∧
      isMasked (UInt8.ofNat code ||| if masked then 0x80 else 0) = masked := by
  have every : ∀ code < 128, ∀ masked : Bool,
      (UInt8.ofNat code ||| if masked then 0x80 else 0) &&& 0x7F = UInt8.ofNat code ∧
        isMasked (UInt8.ofNat code ||| if masked then 0x80 else 0) = masked := by
    decide +kernel
  exact every code small masked

end Header

/-- A header byte pair, an extended length and a key are read off again. -/
private theorem parseHeader_parts (fin compressed : Bool) (opcode : OpCode) (code length : Nat)
    (small : code < 128) (extended : Bytes) (mask : Option Mask) (body : Bytes)
    (size : extended.length = extraLength (UInt8.ofNat code))
    (spelled : ∀ more, readLength (UInt8.ofNat code) (extended ++ more) = (length, more)) :
    parseHeader (firstByte fin compressed opcode ::
        (UInt8.ofNat code ||| if mask.isSome then 0x80 else 0) ::
        (extended ++ ((mask.map Mask.bytes).getD [] ++ body))) =
      .ok (some (⟨fin, compressed, opcode, mask, length⟩, body)) := by
  obtain ⟨low, high⟩ := lengthCode_or small mask.isSome
  have enough : ¬ 2 + (extended ++ ((mask.map Mask.bytes).getD [] ++ body)).length <
      headerSize (UInt8.ofNat code ||| if mask.isSome then 0x80 else 0) := by
    simp only [headerSize, low, high, List.length_append, size]
    cases mask with
    | none => simp
    | some key => simp [Mask.bytes]; omega
  have key : readMask mask.isSome ((mask.map Mask.bytes).getD [] ++ body) = (mask, body) := by
    cases mask <;> rfl
  simp only [parseHeader, firstByte_reserved, firstByte_opcode, if_neg enough, low, high, spelled,
    key, firstByte_fin, firstByte_rsv1, ne_eq, not_true_eq_false, ↓reduceIte]

private theorem extraLength_small {length : Nat} (small : length < 126) :
    extraLength (UInt8.ofNat length) = 0 := by
  have every : ∀ length < 126, extraLength (UInt8.ofNat length) = 0 := by decide +kernel
  exact every length small

private theorem readLength_small {length : Nat} (small : length < 126) (src : Bytes) :
    readLength (UInt8.ofNat length) src = (length, src) := by
  have whole : length % 256 = length := Nat.mod_eq_of_lt (by omega)
  simp [readLength, extraLength_small small, whole]

/-- A length spelled in as many bytes as its code announces is read back. -/
private theorem readLength_toBytes {code : UInt8} {width length : Nat}
    (announced : extraLength code = width) (positive : width ≠ 0) (fits : length < 256 ^ width)
    (src : Bytes) : readLength code (BigEndian.toBytes width length ++ src) = (length, src) := by
  have size : (BigEndian.toBytes width length).length = width := BigEndian.length_toBytes ..
  rw [readLength, announced, if_neg positive, List.take_append_of_le_length (Nat.le_of_eq size.symm),
    List.drop_append_of_le_length (Nat.le_of_eq size.symm), List.take_of_length_le (Nat.le_of_eq size),
    List.drop_of_length_le (Nat.le_of_eq size), BigEndian.ofBytes_toBytes_of_lt fits, List.nil_append]

/-- The decoder reads the three length forms the encoder writes. -/
theorem parseHeader_writeHead (frame : Frame) (fits : frame.payload.length < 2 ^ 64)
    (body : Bytes) :
    parseHeader (frame.writeHead ++ body) =
      .ok (some (⟨frame.fin, frame.isCompressed, frame.opcode, frame.mask,
        frame.payload.length⟩, body)) := by
  have parts := fun code small extended => parseHeader_parts frame.fin frame.isCompressed
    frame.opcode code frame.payload.length small extended frame.mask body
  unfold Frame.writeHead
  simp only
  split
  · rename_i short
    have parsed := parts frame.payload.length (by omega) [] (extraLength_small short).symm
      (readLength_small short)
    simpa [firstByte] using parsed
  · split
    · rename_i medium
      have parsed := parts 126 (by omega) (BigEndian.toBytes 2 frame.payload.length)
        (BigEndian.length_toBytes ..) (readLength_toBytes rfl (by decide) medium)
      simpa [firstByte] using parsed
    · have parsed := parts 127 (by omega) (BigEndian.toBytes 8 frame.payload.length)
        (BigEndian.length_toBytes ..) (readLength_toBytes rfl (by decide) (by omega))
      simpa [firstByte] using parsed

private theorem Encoder.encode_eq (cpu : Cpu) (role : Role) (frame : Frame) (random : Mask)
    (dst : Bytes) :
    encode cpu role frame random dst = dst ++ encode cpu role frame random [] := by
  simp [encode]

private theorem Encoder.encodeAll_eq (cpu : Cpu) (role : Role) (frames : List (Frame × Mask))
    (dst : Bytes) :
    encodeAll cpu role frames dst =
      dst ++ frames.flatMap (fun sent => encode cpu role sent.1 sent.2 []) := by
  induction frames generalizing dst with
  | nil => simp [encodeAll]
  | cons sent frames ih =>
    rw [encodeAll, List.foldl_cons, ← encodeAll, ih, encode_eq, List.flatMap_cons,
      List.append_assoc]

theorem Frame.content_sentBy (frame : Frame) (role : Role) (random : Mask) :
    (frame.sentBy role random).content = frame.content := by
  cases role with
  | server => rfl
  | client =>
    simp only [sentBy, setRandomMaskIfNotSet]
    split <;> rfl

@[simp] theorem Frame.payload_sentBy (frame : Frame) (role : Role) (random : Mask) :
    (frame.sentBy role random).payload = frame.payload :=
  congrArg (·.2.2.2) (frame.content_sentBy role random)

private theorem Sendable.sentBy {role : Role} {maxPayloadSize : UInt64} {frame : Frame}
    (sendable : Sendable role maxPayloadSize frame) (random : Mask) :
    Sendable role maxPayloadSize (frame.sentBy role random) := by
  cases role with
  | server => exact sendable
  | client =>
    simp only [Frame.sentBy, Frame.setRandomMaskIfNotSet]
    split
    · exact ⟨sendable.controlWhole, sendable.pingSmall, sendable.payloadSmall, nofun⟩
    · exact sendable

/-- The payload as it stands behind the header. -/
theorem Encoder.encode_nil (cpu : Cpu) (role : Role) (frame : Frame) (random : Mask) :
    encode cpu role frame random [] =
      (frame.sentBy role random).writeHead ++
        match (frame.sentBy role random).mask with
        | some mask => maskFrom mask 0 (frame.sentBy role random).payload
        | none => (frame.sentBy role random).payload := by
  cases role with
  | client =>
    cases masked : (frame.setRandomMaskIfNotSet random).mask <;>
      simp [encode, Frame.sentBy, masked, copyMask_eq]
  | server => cases masked : frame.mask <;> simp [encode, Frame.sentBy, masked, copyMask_eq]

namespace Decoder

/-- The header checks let every sendable frame through. -/
theorem validate_sendable (receiver : Role) {role : Role} {maxPayloadSize : UInt64} {frame : Frame}
    (sendable : Sendable role maxPayloadSize frame) (mask : Option Mask) :
    (new receiver maxPayloadSize).validate
      ⟨frame.fin, frame.isCompressed, frame.opcode, mask, frame.payload.length⟩ = .ok () := by
  have whole := sendable.controlWhole
  have small := sendable.pingSmall
  have limit := sendable.payloadSmall
  unfold validate
  rw [if_neg, if_neg, if_neg]
  · exact Nat.not_le.mpr limit
  · rintro ⟨ping, large⟩
    exact Nat.not_le.mpr large (small ping)
  · rintro ⟨control, unfinished⟩
    rw [whole control] at unfinished
    contradiction

/-- With the payload in the buffer as the sender's side put it there, the frame
comes out as it was before masking. -/
theorem complete_sent (cpu : Cpu) {role : Role} {maxPayloadSize : UInt64} (frame : Frame)
    (keyed : role = .client ↔ frame.mask.isSome) (more : Bytes) :
    (new role.opposite maxPayloadSize).complete cpu
        ⟨frame.fin, frame.isCompressed, frame.opcode, frame.mask, frame.payload.length⟩
        ((match frame.mask with
          | some mask => maskFrom mask 0 frame.payload
          | none => frame.payload) ++ more) =
      (.ok (some frame), new role.opposite maxPayloadSize, more) := by
  obtain ⟨fin, opcode, isCompressed, mask, payload⟩ := frame
  cases mask with
  | none =>
    have plain : role = .server := by
      cases role with
      | server => rfl
      | client => simp at keyed
    subst plain
    simp [complete, new, Role.opposite, unmask, Frame.new]
  | some key =>
    have masking : role = .client := keyed.mpr rfl
    subst masking
    have size : (maskFrom key 0 payload).length = payload.length := length_maskFrom ..
    have enough : ¬ (maskFrom key 0 payload ++ more).length < payload.length := by
      rw [List.length_append, size]
      omega
    have front : (maskFrom key 0 payload ++ more).take payload.length = maskFrom key 0 payload :=
      List.take_left' size
    have back : (maskFrom key 0 payload ++ more).drop payload.length = more := List.drop_left' size
    simp only [complete, dif_neg enough, new, Role.opposite, unmask, applyMask_eq, front, back,
      maskFrom_maskFrom, List.take_left, List.drop_left, Frame.new]

/-- One frame is read back from in front of whatever follows it. -/
theorem decode_encode (cpu encoderCpu : Cpu) {role : Role} {maxPayloadSize : UInt64}
    {frame : Frame} (sendable : Sendable role maxPayloadSize frame) (random : Mask) (more : Bytes) :
    (new role.opposite maxPayloadSize).decode cpu
        (Encoder.encode encoderCpu role frame random [] ++ more) =
      (.ok (some (frame.sentBy role random)), new role.opposite maxPayloadSize, more) := by
  have fits : (frame.sentBy role random).payload.length < 2 ^ 64 := by
    rw [Frame.payload_sentBy]
    exact Nat.lt_trans sendable.payloadSmall maxPayloadSize.toNat_lt
  have keyed : role = .client ↔ (frame.sentBy role random).mask.isSome := by
    cases role with
    | server => simp [Frame.sentBy, sendable.serverPlain rfl]
    | client =>
      simp only [Frame.sentBy, Frame.setRandomMaskIfNotSet, true_iff]
      split
      · rfl
      · rename_i key own
        rw [own]
        rfl
  have valid := validate_sendable role.opposite (sendable.sentBy random)
    (frame.sentBy role random).mask
  rw [Encoder.encode_nil, List.append_assoc]
  simp only [decode, show (new role.opposite maxPayloadSize).state = none from rfl,
    parseHeader_writeHead _ fits, valid]
  exact complete_sent cpu _ keyed more

/-- A stream of frames is read back frame by frame. -/
theorem drainAll_encodeAll (cpu encoderCpu : Cpu) {role : Role} {maxPayloadSize : UInt64}
    {frames : List (Frame × Mask)}
    (sendable : ∀ sent ∈ frames, Sendable role maxPayloadSize sent.1) :
    Incremental.drainAll (decode cpu) (new role.opposite maxPayloadSize)
        (Encoder.encodeAll encoderCpu role frames []) =
      ⟨frames.map fun sent => sent.1.sentBy role sent.2, none, new role.opposite maxPayloadSize,
        []⟩ := by
  rw [Encoder.encodeAll_eq, List.nil_append]
  exact (decode_resumable cpu).drainAll_encoded _ _ _ (new_idle cpu _ _) frames fun sent member more =>
    decode_encode cpu encoderCpu (sendable sent member) sent.2 more

theorem content_sentBy_all (role : Role) (frames : List (Frame × Mask)) :
    (frames.map fun sent => sent.1.sentBy role sent.2).map Frame.content =
      frames.map (·.1.content) := by
  rw [List.map_map]
  exact List.map_congr_left fun sent _ => sent.1.content_sentBy role sent.2

/-- A stream of frames comes out as it went in: the same contents in the same
order, an empty buffer and no error. The two ends may run on different
processors. -/
theorem decode_encodeAll (cpu encoderCpu : Cpu) (role : Role) (maxPayloadSize : UInt64)
    (frames : List (Frame × Mask))
    (sendable : ∀ sent ∈ frames, Sendable role maxPayloadSize sent.1) :
    let run := Incremental.drainAll (decode cpu) (new role.opposite maxPayloadSize)
      (Encoder.encodeAll encoderCpu role frames [])
    run.items.map Frame.content = frames.map (·.1.content) ∧ run.rest = [] ∧ run.error = none := by
  rw [drainAll_encodeAll cpu encoderCpu sendable]
  exact ⟨content_sentBy_all role frames, rfl, rfl⟩

theorem decode_encodeAll_hello :
    let frames := [((Frame.text (textBytes "Hello")).withMask ⟨0x37, 0xFA, 0x21, 0x3D⟩,
      Mask.mk 0 0 0 0), (Frame.ping [], Mask.mk 1 2 3 4)]
    let run := Incremental.drainAll (decode .scalar) (new .server 126)
      (Encoder.encodeAll .scalar .client frames [])
    run.items.map Frame.content =
        [(true, .text, false, textBytes "Hello"), (true, .ping, false, [])] ∧
      run.rest = [] ∧ run.error = none :=
  decode_encodeAll _ _ .client 126 _ (by
    rintro sent member
    rcases List.mem_cons.mp member with rfl | member
    · exact ⟨by decide, by decide, by decide, by decide⟩
    · rcases List.mem_singleton.mp member with rfl
      exact ⟨by decide, by decide, by decide, by decide⟩)

end Decoder

end Yawc
