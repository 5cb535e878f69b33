import Yawc.Codec

/-! Decoding does not depend on how the bytes arrive. -/

namespace Yawc

private theorem keyAt_append (body more : Bytes) (enough : 4 ≤ body.length) :
    keyAt (body ++ more) = keyAt body := by
  match body, enough with
  | _ :: _ :: _ :: _ :: _, _ => rfl

private theorem readLength_append (code : UInt8) (src more : Bytes)
    (enough : extraLength code ≤ src.length) :
    readLength code (src ++ more) = ((readLength code src).1, (readLength code src).2 ++ more) := by
  unfold readLength
  split
  · rfl
  · rw [List.take_append_of_le_length enough, List.drop_append_of_le_length enough]

private theorem readMask_append (masked : Bool) (src more : Bytes)
    (enough : (if masked then 4 else 0) ≤ src.length) :
    readMask masked (src ++ more) = ((readMask masked src).1, (readMask masked src).2 ++ more) := by
  cases masked with
  | false => rfl
  | true =>
    simp only [readMask, ↓reduceIte] at enough ⊢
    rw [keyAt_append _ _ enough, List.drop_append_of_le_length enough]

theorem length_readLength (code : UInt8) (src : Bytes) :
    (readLength code src).2.length = src.length - extraLength code := by
  unfold readLength
  split
  · rename_i short
    simp [short]
  · simp

private theorem length_readMask_le (masked : Bool) (src : Bytes) :
    (readMask masked src).2.length ≤ src.length := by
  cases masked <;> simp [readMask]

private theorem parseHeader_error_append {src : Bytes} {error : WebSocketError}
    (failed : parseHeader src = .error error) (more : Bytes) :
    parseHeader (src ++ more) = .error error := by
  match src with
  | [] => simp [parseHeader] at failed
  | [_] => simp [parseHeader] at failed
  | first :: second :: src =>
    simp only [List.cons_append, parseHeader] at failed ⊢
    split at failed
    · rename_i reserved
      rw [if_pos reserved]
      exact failed
    · rename_i plain
      rw [if_neg plain]
      split at failed
      · exact failed
      · split at failed <;> simp at failed

theorem parseHeader_some_append {src body : Bytes} {header : Header}
    (parsed : parseHeader src = .ok (some (header, body))) (more : Bytes) :
    parseHeader (src ++ more) = .ok (some (header, body ++ more)) := by
  match src with
  | [] => simp [parseHeader] at parsed
  | [_] => simp [parseHeader] at parsed
  | first :: second :: src =>
    simp only [List.cons_append, parseHeader] at parsed ⊢
    split at parsed
    · simp at parsed
    · rename_i plain
      rw [if_neg plain]
      split at parsed
      · simp at parsed
      · split at parsed
        · simp at parsed
        · rename_i whole
          have longer : ¬ 2 + (src ++ more).length < headerSize second := by
            rw [List.length_append]
            omega
          have size : headerSize second =
              2 + extraLength (second &&& 0x7F) + if isMasked second then 4 else 0 := rfl
          have key : (if isMasked second then 4 else 0) ≤
              (readLength (second &&& 0x7F) src).2.length := by
            rw [length_readLength]
            omega
          rw [if_neg longer, readLength_append _ _ _ (by omega), readMask_append _ _ _ key]
          simp only [Except.ok.injEq, Option.some.injEq, Prod.mk.injEq] at parsed ⊢
          obtain ⟨rfl, rfl⟩ := parsed
          exact ⟨rfl, rfl⟩

theorem parseHeader_consumes {src body : Bytes} {header : Header}
    (parsed : parseHeader src = .ok (some (header, body))) : body.length < src.length := by
  match src with
  | [] => simp [parseHeader] at parsed
  | [_] => simp [parseHeader] at parsed
  | first :: second :: src =>
    simp only [parseHeader] at parsed
    split at parsed
    · simp at parsed
    · split at parsed
      · simp at parsed
      · split at parsed
        · simp at parsed
        · simp only [Except.ok.injEq, Option.some.injEq, Prod.mk.injEq] at parsed
          obtain ⟨-, rfl⟩ := parsed
          have inner := length_readMask_le (isMasked second) (readLength (second &&& 0x7F) src).2
          rw [length_readLength] at inner
          simp only [List.length_cons]
          omega

namespace ReadState

variable (fin rsv1 : Bool) (opcode : OpCode)

private theorem packFlags_fin (masked : Bool) :
    decide (packFlags fin rsv1 opcode masked &&& 0x80 ≠ 0) = fin := by
  cases fin <;> cases rsv1 <;> cases opcode <;> cases masked <;> decide

private theorem packFlags_rsv1 (masked : Bool) :
    decide (packFlags fin rsv1 opcode masked &&& 0x40 ≠ 0) = rsv1 := by
  cases fin <;> cases rsv1 <;> cases opcode <;> cases masked <;> decide

private theorem packFlags_masked (masked : Bool) :
    decide (packFlags fin rsv1 opcode masked &&& 0x10 ≠ 0) = masked := by
  cases fin <;> cases rsv1 <;> cases opcode <;> cases masked <;> decide

private theorem packFlags_opcode (masked : Bool) :
    .transmute (packFlags fin rsv1 opcode masked &&& 0x0F)
      (packFlags_validOpcode fin rsv1 opcode masked) = opcode := by
  cases fin <;> cases rsv1 <;> cases opcode <;> cases masked <;> decide

variable (mask : Option Mask) (payloadLen : Nat) (awaits : 0 < payloadLen)

@[simp] theorem fin_new : (new fin rsv1 opcode mask payloadLen awaits).fin = fin :=
  packFlags_fin fin rsv1 opcode mask.isSome

@[simp] theorem rsv1_new : (new fin rsv1 opcode mask payloadLen awaits).rsv1 = rsv1 :=
  packFlags_rsv1 fin rsv1 opcode mask.isSome

/-- The stored variant number names the opcode it came from. -/
@[simp] theorem opcode_new : (new fin rsv1 opcode mask payloadLen awaits).opcode = opcode :=
  packFlags_opcode fin rsv1 opcode mask.isSome

@[simp] theorem mask_new : (new fin rsv1 opcode mask payloadLen awaits).mask = mask := by
  have bit := packFlags_masked fin rsv1 opcode mask.isSome
  cases mask with
  | none => exact if_neg (of_decide_eq_false bit)
  | some key => exact if_pos (of_decide_eq_true bit)

end ReadState

namespace Decoder

theorem unmask_append {cpu : Cpu} {role : Role} {mask : Option Mask} {length : Nat}
    {src : Bytes} (whole : length ≤ src.length) (more : Bytes) :
    unmask cpu role mask length (src ++ more) =
      (unmask cpu role mask length src).map (· ++ more) := by
  cases role with
  | client => rfl
  | server =>
    cases mask with
    | none => rfl
    | some key =>
      simp only [unmask, Except.map]
      rw [List.take_append_of_le_length whole, List.drop_append_of_le_length whole,
        List.append_assoc]

private theorem unmask_length {cpu : Cpu} {role : Role} {mask : Option Mask} {length : Nat}
    {src plain : Bytes} (done : unmask cpu role mask length src = .ok plain) :
    plain.length = src.length := by
  cases role with
  | client =>
    simp only [unmask, Except.ok.injEq] at done
    rw [← done]
  | server =>
    cases mask with
    | none => simp [unmask] at done
    | some key =>
      simp only [unmask, Except.ok.injEq] at done
      rw [← done, applyMask_eq, List.length_append, length_maskFrom, ← List.length_append,
        List.take_append_drop]

/-- Both copies of the payload code do the same with the same header. -/
theorem resume_new (cpu : Cpu) (self : Decoder) (header : Header) (awaits : 0 < header.payloadLen)
    (src : Bytes) (idle : self.state = none) :
    resume cpu { self with state := some (.new header.fin header.rsv1 header.opcode header.mask
        header.payloadLen awaits) }
      (.new header.fin header.rsv1 header.opcode header.mask header.payloadLen awaits) src =
      self.complete cpu header src := by
  have same : { self with state := none } = self := by
    cases self
    simp_all
  simp only [resume, complete]
  simp only [ReadState.fin_new, ReadState.rsv1_new, ReadState.opcode_new, ReadState.mask_new,
    show (ReadState.new header.fin header.rsv1 header.opcode header.mask header.payloadLen
      awaits).payloadLen = header.payloadLen from rfl, same]
  split
  · rfl
  · rfl

theorem complete_item {cpu : Cpu} {self next : Decoder} {header : Header} {src rest : Bytes}
    {frame : Frame} (done : self.complete cpu header src = (.ok (some frame), next, rest))
    (more : Bytes) :
    self.complete cpu header (src ++ more) = (.ok (some frame), next, rest ++ more) ∧
      rest.length + header.payloadLen = src.length := by
  unfold complete at done ⊢
  split at done
  · simp at done
  · rename_i enough
    have whole : header.payloadLen ≤ src.length := Nat.le_of_not_lt enough
    rw [dif_neg (by rw [List.length_append]; omega), unmask_append whole]
    cases plain : unmask cpu self.role header.mask header.payloadLen src with
    | error error => simp [plain] at done
    | ok plain' =>
      have size := unmask_length plain
      simp only [plain, Prod.mk.injEq, Except.ok.injEq, Option.some.injEq] at done
      obtain ⟨rfl, rfl, rfl⟩ := done
      simp only [Except.map]
      rw [List.take_append_of_le_length (by omega), List.drop_append_of_le_length (by omega)]
      refine ⟨rfl, ?_⟩
      rw [List.length_drop]
      omega

theorem complete_error {cpu : Cpu} {self next : Decoder} {header : Header} {src rest : Bytes}
    {error : WebSocketError} (failed : self.complete cpu header src = (.error error, next, rest))
    (more : Bytes) :
    self.complete cpu header (src ++ more) = (.error error, next, rest ++ more) := by
  unfold complete at failed ⊢
  split at failed
  · simp at failed
  · rename_i enough
    have whole : header.payloadLen ≤ src.length := Nat.le_of_not_lt enough
    rw [dif_neg (by rw [List.length_append]; omega), unmask_append whole]
    cases plain : unmask cpu self.role header.mask header.payloadLen src with
    | error reason =>
      simp only [plain, Prod.mk.injEq, Except.error.injEq] at failed
      obtain ⟨rfl, rfl, rfl⟩ := failed
      rfl
    | ok plain' => simp [plain] at failed

/-- A frame whose payload is incomplete is saved, and finished from what was saved. -/
theorem complete_resumes {cpu : Cpu} {self next : Decoder} {header : Header} {src rest : Bytes}
    (waiting : self.complete cpu header src = (.ok none, next, rest)) (idle : self.state = none)
    (more : Bytes) :
    next.decode cpu (rest ++ more) = self.complete cpu header (src ++ more) := by
  unfold complete at waiting
  split at waiting
  · rename_i missing
    simp only [Prod.mk.injEq, true_and] at waiting
    obtain ⟨rfl, rfl⟩ := waiting
    exact resume_new cpu self header (by omega) (src ++ more) idle
  · split at waiting <;> simp at waiting

/-- Once the payload is there, a saved frame is finished like a fresh one. -/
theorem resume_eq_complete (cpu : Cpu) (self : Decoder) (state : ReadState) {src : Bytes}
    (whole : state.payloadLen ≤ src.length) :
    self.resume cpu state src =
      { self with state := none }.complete cpu
        ⟨state.fin, state.rsv1, state.opcode, state.mask, state.payloadLen⟩ src := by
  have enough : ¬ src.length < state.payloadLen := Nat.not_lt.mpr whole
  simp only [resume, complete, if_neg enough, dif_neg enough]

theorem resume_item {cpu : Cpu} {self next : Decoder} {state : ReadState} {src rest : Bytes}
    {frame : Frame} (done : self.resume cpu state src = (.ok (some frame), next, rest))
    (more : Bytes) :
    self.resume cpu state (src ++ more) = (.ok (some frame), next, rest ++ more) ∧
      rest.length < src.length := by
  by_cases missing : src.length < state.payloadLen
  · simp [resume, missing] at done
  · have whole : state.payloadLen ≤ src.length := Nat.le_of_not_lt missing
    have awaits := state.awaitsPayload
    rw [resume_eq_complete cpu self state whole] at done
    rw [resume_eq_complete cpu self state (by rw [List.length_append]; omega)]
    obtain ⟨longer, size⟩ := complete_item done more
    exact ⟨longer, by simp only at size; omega⟩

private theorem resume_error {cpu : Cpu} {self next : Decoder} {state : ReadState}
    {src rest : Bytes}
    {error : WebSocketError} (failed : self.resume cpu state src = (.error error, next, rest))
    (more : Bytes) :
    self.resume cpu state (src ++ more) = (.error error, next, rest ++ more) := by
  by_cases missing : src.length < state.payloadLen
  · simp [resume, missing] at failed
  · have whole : state.payloadLen ≤ src.length := Nat.le_of_not_lt missing
    rw [resume_eq_complete cpu self state whole] at failed
    rw [resume_eq_complete cpu self state (by rw [List.length_append]; omega)]
    exact complete_error failed more

private theorem resume_resumes {cpu : Cpu} {self next : Decoder} {state : ReadState}
    {src rest : Bytes}
    (waiting : self.resume cpu state src = (.ok none, next, rest)) (saved : self.state = some state)
    : next = self ∧ rest = src := by
  unfold resume at waiting
  split at waiting
  · simp only [Prod.mk.injEq, true_and] at waiting
    obtain ⟨rfl, rfl⟩ := waiting
    refine ⟨?_, rfl⟩
    cases self
    simp_all
  · split at waiting <;> simp at waiting

private theorem decode_consumes {cpu : Cpu} {self next : Decoder} {src rest : Bytes} {frame : Frame}
    (done : self.decode cpu src = (.ok (some frame), next, rest)) : rest.length < src.length := by
  unfold decode at done
  split at done
  · exact (resume_item done []).2
  · split at done
    · simp at done
    · simp at done
    · rename_i header body parsed
      have header_size := parseHeader_consumes parsed
      split at done
      · simp at done
      · have body_size := (complete_item done []).2
        omega

private theorem decode_item {cpu : Cpu} {self next : Decoder} {src rest : Bytes} {frame : Frame}
    (done : self.decode cpu src = (.ok (some frame), next, rest)) (more : Bytes) :
    self.decode cpu (src ++ more) = (.ok (some frame), next, rest ++ more) := by
  unfold decode at done ⊢
  split at done
  · exact (resume_item done more).1
  · split at done
    · simp at done
    · simp at done
    · rename_i header body parsed
      rw [parseHeader_some_append parsed more]
      simp only
      split at done
      · simp at done
      · rename_i valid
        exact (complete_item done more).1

private theorem decode_error {cpu : Cpu} {self next : Decoder} {src rest : Bytes}
    {error : WebSocketError}
    (failed : self.decode cpu src = (.error error, next, rest)) (more : Bytes) :
    self.decode cpu (src ++ more) = (.error error, next, rest ++ more) := by
  unfold decode at failed ⊢
  split at failed
  · exact resume_error failed more
  · split at failed
    · rename_i refused
      rw [parseHeader_error_append refused more]
      simp only [Prod.mk.injEq, Except.error.injEq] at failed ⊢
      obtain ⟨rfl, rfl, rfl⟩ := failed
      exact ⟨rfl, rfl, rfl⟩
    · simp at failed
    · rename_i header body parsed
      rw [parseHeader_some_append parsed more]
      simp only
      split at failed
      · rename_i invalid
        simp only [Prod.mk.injEq, Except.error.injEq] at failed ⊢
        obtain ⟨rfl, rfl, rfl⟩ := failed
        exact ⟨rfl, rfl, rfl⟩
      · rename_i valid
        exact complete_error failed more

private theorem decode_resumes {cpu : Cpu} {self next : Decoder} {src rest : Bytes}
    (waiting : self.decode cpu src = (.ok none, next, rest)) (more : Bytes) :
    next.decode cpu (rest ++ more) = self.decode cpu (src ++ more) := by
  unfold decode at waiting
  split at waiting
  · rename_i state saved
    obtain ⟨rfl, rfl⟩ := resume_resumes waiting saved
    rfl
  · rename_i idle
    split at waiting
    · simp at waiting
    · simp only [Prod.mk.injEq, true_and] at waiting
      obtain ⟨rfl, rfl⟩ := waiting
      rfl
    · rename_i header body parsed
      split at waiting
      · simp at waiting
      · rename_i valid
        rw [complete_resumes waiting idle more]
        conv => rhs; unfold decode
        rw [idle, parseHeader_some_append parsed more]
        simp only [valid]

/-- The saved state stands for the bytes already taken, and a verdict never
changes when more bytes follow. -/
theorem decode_resumable (cpu : Cpu) : Incremental.Resumable (Decoder.decode cpu) where
  consumes := decode_consumes
  item := decode_item
  error := decode_error
  resumes := decode_resumes

theorem new_idle (cpu : Cpu) (role : Role) (maxPayloadSize : UInt64) :
    Incremental.Idle (decode cpu) (new role maxPayloadSize) [] :=
  rfl

/-- Frames, first error and unconsumed bytes are those of the whole input at
once, draining ends because the decoder waits or fails, and the code that
resumes from a saved frame agrees with the code that finishes it directly. -/
theorem decode_chunks (cpu : Cpu) (role : Role) (maxPayloadSize : UInt64) (chunks : List Bytes) :
    let whole := Incremental.drainAll (decode cpu) (new role maxPayloadSize) chunks.flatten
    Incremental.feed (decode cpu) (new role maxPayloadSize) [] chunks = whole ∧
      (whole.error.isSome ∨ Incremental.Idle (decode cpu) whole.state whole.rest) ∧
      ∀ header awaits src,
        resume cpu { new role maxPayloadSize with
            state := some (.new header.fin header.rsv1 header.opcode header.mask
              header.payloadLen awaits) }
          (.new header.fin header.rsv1 header.opcode header.mask header.payloadLen awaits) src =
        (new role maxPayloadSize).complete cpu header src := by
  intro whole
  refine ⟨?_, ?_, fun header awaits src => resume_new cpu _ header awaits src rfl⟩
  · exact (decode_resumable cpu).feed_eq _ [] chunks (new_idle cpu role maxPayloadSize)
  · cases outcome : whole.error with
    | some error => exact .inl rfl
    | none => exact .inr ((decode_resumable cpu).drainAll_idle _ _ outcome)

end Decoder

end Yawc
