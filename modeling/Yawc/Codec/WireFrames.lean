import Yawc.Codec.Chunking

/-! The complete frames of a byte stream, and which of them the decoder hands out. -/

namespace Yawc

/-- A complete frame on the wire: its header and the bytes behind it. -/
structure WireFrame where
  header : Header
  body : Bytes
  deriving DecidableEq

namespace WireFrame

def masked (self : WireFrame) : Bool := self.header.mask.isSome

/-- The payload its sender meant. -/
def meant (self : WireFrame) : Bytes :=
  match self.header.mask with
  | some key => maskFrom key 0 self.body
  | none => self.body

/-- The frame a decoder of the given role makes of it. Only a server unmasks. -/
def readBy (self : WireFrame) (role : Role) : Frame where
  fin := self.header.fin
  opcode := self.header.opcode
  isCompressed := self.header.rsv1
  mask := self.header.mask
  payload := match role with
    | .server => self.meant
    | .client => self.body

private theorem meant_of_unmasked {wire : WireFrame} (plain : wire.masked = false) :
    wire.meant = wire.body := by
  have none : wire.header.mask = none := by simpa [masked] using plain
  simp [meant, none]

theorem length_readBy (wire : WireFrame) (role : Role) :
    (wire.readBy role).payload.length = wire.body.length := by
  cases role with
  | client => rfl
  | server =>
    simp only [readBy, meant]
    split <;> simp

end WireFrame

/-- The complete frames in front of the buffer, at most `fuel` of them. -/
def framesWithin : Nat → Bytes → List WireFrame
  | 0, _ => []
  | fuel + 1, src =>
    match parseHeader src with
    | .ok (some (header, src)) =>
      if src.length < header.payloadLen then []
      else ⟨header, src.take header.payloadLen⟩ ::
        framesWithin fuel (src.drop header.payloadLen)
    | _ => []

/-- The complete frames of a byte stream, up to the first header that names no
frame. -/
def framesOf (src : Bytes) : List WireFrame := framesWithin (src.length + 1) src

/-- Every frame takes bytes, so more fuel than bytes changes nothing. -/
theorem framesWithin_enough (fuel : Nat) (src : Bytes) (enough : src.length < fuel) :
    framesWithin fuel src = framesOf src := by
  unfold framesOf
  generalize bound : src.length + 1 = steps
  have steps_enough : src.length < steps := by omega
  clear bound
  induction fuel generalizing src steps with
  | zero => omega
  | succ fuel ih =>
    cases steps with
    | zero => omega
    | succ steps =>
      simp only [framesWithin]
      split
      · rename_i header body parsed
        have shorter := parseHeader_consumes parsed
        have rest : (body.drop header.payloadLen).length < fuel := by
          rw [List.length_drop]
          omega
        rw [ih _ rest steps (by rw [List.length_drop]; omega)]
      · rfl

theorem framesOf_cons {src body : Bytes} {header : Header}
    (parsed : parseHeader src = .ok (some (header, body)))
    (whole : header.payloadLen ≤ body.length) :
    framesOf src =
      ⟨header, body.take header.payloadLen⟩ :: framesOf (body.drop header.payloadLen) := by
  have shorter := parseHeader_consumes parsed
  rw [framesOf, framesWithin, parsed]
  simp only [if_neg (Nat.not_lt.mpr whole)]
  rw [framesWithin_enough]
  rw [List.length_drop]
  omega

theorem framesOf_incomplete {src body : Bytes} {header : Header}
    (parsed : parseHeader src = .ok (some (header, body)))
    (missing : body.length < header.payloadLen) : framesOf src = [] := by
  simp only [framesOf, framesWithin, parsed, if_pos missing]

theorem framesOf_unparsed {src : Bytes}
    (unparsed : ∀ header body, parseHeader src ≠ .ok (some (header, body))) :
    framesOf src = [] := by
  rw [framesOf, framesWithin]
  split
  · rename_i header body parsed
    exact absurd parsed (unparsed header body)
  · rfl

/-- A frame's body is as long as its header announces. -/
theorem length_body_framesOf {src : Bytes} {wire : WireFrame} (member : wire ∈ framesOf src) :
    wire.body.length = wire.header.payloadLen := by
  generalize size : src.length = n
  induction n using Nat.strongRecOn generalizing src with
  | ind n ih =>
    by_cases unparsed : ∀ header body, parseHeader src ≠ .ok (some (header, body))
    · rw [framesOf_unparsed unparsed] at member
      simp at member
    · push Not at unparsed
      obtain ⟨header, body, parsed⟩ := unparsed
      by_cases missing : body.length < header.payloadLen
      · rw [framesOf_incomplete parsed missing] at member
        simp at member
      · have whole := Nat.le_of_not_lt missing
        have shorter := parseHeader_consumes parsed
        rw [framesOf_cons parsed whole] at member
        rcases List.mem_cons.mp member with rfl | later
        · simpa using whole
        · refine ih _ ?_ later rfl
          rw [List.length_drop]
          omega

namespace Decoder

/-- The header checks, without those on the mask. -/
def valid (self : Decoder) (wire : WireFrame) : Bool :=
  self.validate wire.header = .ok ()

/-- All the checks a complete frame has to pass. -/
def accepts (self : Decoder) (wire : WireFrame) : Bool :=
  self.valid wire && (self.role = .client || wire.masked)

/-- The payload code on a complete frame. -/
theorem complete_whole (cpu : Cpu) (self : Decoder) (header : Header) (src : Bytes)
    (whole : header.payloadLen ≤ src.length) :
    self.complete cpu header src =
      if self.role = .client ∨ header.mask.isSome then
        (.ok (some (WireFrame.readBy ⟨header, src.take header.payloadLen⟩ self.role)), self,
          src.drop header.payloadLen)
      else (.error .invalidFragment, self, src) := by
  have enough : ¬ src.length < header.payloadLen := Nat.not_lt.mpr whole
  simp only [complete, dif_neg enough]
  cases role : self.role with
  | client => simp [unmask, WireFrame.readBy, Frame.new]
  | server =>
    cases key : header.mask with
    | none => simp [unmask]
    | some mask =>
      have size : (maskFrom mask 0 (src.take header.payloadLen)).length = header.payloadLen := by
        rw [length_maskFrom, List.length_take]
        omega
      simp [unmask, applyMask_eq, WireFrame.readBy, WireFrame.meant, Frame.new, key,
        List.take_left' size, List.drop_left' size]

variable (cpu : Cpu) (role : Role) (maxPayloadSize : UInt64)

/-- One call of a fresh decoder, by the first frame of the buffer. -/
inductive Verdict (src : Bytes) : Result (Option Frame) × Decoder × Bytes → Prop where
  | waits (none : framesOf src = []) (next : Decoder) (rest : Bytes) :
      Verdict src (.ok .none, next, rest)
  | refuses (error : WebSocketError) (next : Decoder) (rest : Bytes)
      (first : ∀ wire later, framesOf src = wire :: later →
        (new role maxPayloadSize).accepts wire = false) :
      Verdict src (.error error, next, rest)
  | reads (wire : WireFrame) (rest : Bytes) (first : framesOf src = wire :: framesOf rest)
      (taken : (new role maxPayloadSize).accepts wire) (shorter : rest.length < src.length) :
      Verdict src (.ok (some (wire.readBy role)), new role maxPayloadSize, rest)

private theorem complete_verdict {src body : Bytes} {header : Header}
    (parsed : parseHeader src = .ok (some (header, body)))
    (valid : (new role maxPayloadSize).validate header = .ok ()) :
    Verdict role maxPayloadSize src ((new role maxPayloadSize).complete cpu header body) := by
  by_cases missing : body.length < header.payloadLen
  · simp only [complete, dif_pos missing]
    exact .waits (framesOf_incomplete parsed missing) _ _
  · have whole := Nat.le_of_not_lt missing
    rw [complete_whole cpu _ _ _ whole]
    split
    · rename_i keyed
      have shorter := parseHeader_consumes parsed
      refine .reads ⟨header, body.take header.payloadLen⟩ _ (framesOf_cons parsed whole) ?_ ?_
      · simpa [accepts, Decoder.valid, WireFrame.masked, valid] using keyed
      · rw [List.length_drop]
        omega
    · rename_i plain
      refine .refuses _ _ _ fun wire later first => ?_
      rw [framesOf_cons parsed whole, List.cons.injEq] at first
      obtain ⟨rfl, -⟩ := first
      simpa [accepts, Decoder.valid, WireFrame.masked, valid] using plain

theorem decode_verdict (src : Bytes) :
    Verdict role maxPayloadSize src ((new role maxPayloadSize).decode cpu src) := by
  simp only [decode, show (new role maxPayloadSize).state = none from rfl]
  rcases parsed : parseHeader src with error | _ | ⟨header, body⟩
  · exact .refuses _ _ _ (by simp [framesOf_unparsed, parsed])
  · exact .waits (framesOf_unparsed (by simp [parsed])) _ _
  · simp only
    rcases valid : (new role maxPayloadSize).validate header with error | ⟨⟩
    · refine .refuses _ _ _ fun wire later first => ?_
      -- A refused header is judged before its payload has to be there.
      by_cases missing : body.length < header.payloadLen
      · simp [framesOf_incomplete parsed missing] at first
      · rw [framesOf_cons parsed (Nat.le_of_not_lt missing), List.cons.injEq] at first
        obtain ⟨rfl, -⟩ := first
        simp [accepts, Decoder.valid, valid]
    · exact complete_verdict cpu role maxPayloadSize parsed valid

/-- What draining the stream returns, frame by frame: those in front of the
first one that is refused, and an error if there is such a one. -/
structure Reads (run : Incremental.Run Decoder UInt8 Frame WebSocketError)
    (frames : List WireFrame) : Prop where
  items : run.items = (frames.takeWhile (new role maxPayloadSize).accepts).map (·.readBy role)
  refused : ∀ wire ∈ frames, (new role maxPayloadSize).accepts wire = false → run.error.isSome

variable {role maxPayloadSize} in
/-- Without an error no frame was refused. -/
theorem Reads.takeWhile_eq {run : Incremental.Run Decoder UInt8 Frame WebSocketError}
    {frames : List WireFrame} (reads : Reads role maxPayloadSize run frames)
    (fine : run.error.isSome = false) :
    frames.takeWhile (new role maxPayloadSize).accepts = frames := by
  rw [List.takeWhile_eq_self_iff]
  intro wire member
  by_contra refused
  simpa [fine] using reads.refused wire member (by simpa using refused)

private theorem drainAll_reads (src : Bytes) :
    Reads role maxPayloadSize
      (Incremental.drainAll (decode cpu) (new role maxPayloadSize) src) (framesOf src) := by
  generalize size : src.length = n
  induction n using Nat.strongRecOn generalizing src with
  | ind n ih =>
    rw [(decode_resumable cpu).drainAll_eq]
    generalize answer : (new role maxPayloadSize).decode cpu src = call
    have verdict := decode_verdict cpu role maxPayloadSize src
    rw [answer] at verdict
    cases verdict with
    | waits none next rest => exact ⟨by simp [none], by simp [none]⟩
    | refuses error next rest first =>
      refine ⟨?_, by simp⟩
      cases frames : framesOf src with
      | nil => rfl
      | cons wire later => simp [first wire later frames]
    | reads wire rest first taken shorter =>
      have later := ih rest.length (by omega) rest rfl
      rw [first]
      constructor
      · simp [Incremental.Run.prepend, taken, later.items]
      · intro other member refused
        rcases List.mem_cons.mp member with rfl | member
        · simp [taken] at refused
        · exact later.refused other member refused

/-- The same, however the stream is delivered. -/
theorem feed_reads (chunks : List Bytes) :
    Reads role maxPayloadSize
      (Incremental.feed (decode cpu) (new role maxPayloadSize) [] chunks)
      (framesOf chunks.flatten) := by
  rw [(decode_resumable cpu).feed_eq _ [] chunks (new_idle cpu role maxPayloadSize)]
  exact drainAll_reads cpu role maxPayloadSize chunks.flatten

theorem getElem?_of_takeWhile {frames : List WireFrame} {index : Nat} {wire : WireFrame}
    {keep : WireFrame → Bool} (found : (frames.takeWhile keep)[index]? = some wire) :
    frames[index]? = some wire := by
  obtain ⟨dropped, whole⟩ := List.takeWhile_prefix (l := frames) keep
  rw [← whole, List.getElem?_append_left (List.getElem?_eq_some_iff.mp found).1]
  exact found

section Masking

variable (chunks : List Bytes)

/-- Masking is enforced on a stream: every frame returned carries the mask bit
of the peer's role and the payload its sender meant, and a frame with the other
bit ends the stream with an error. -/
structure EnforcesMasking : Prop where
  returned : ∀ {index : Nat} {frame : Frame},
    (Incremental.feed (decode cpu) (new role maxPayloadSize) [] chunks).items[index]? =
        some frame →
      ∃ wire, (framesOf chunks.flatten)[index]? = some wire ∧
        (wire.masked ↔ role = .server) ∧ frame.payload = wire.meant
  refused : ∀ wire ∈ framesOf chunks.flatten, ¬ (wire.masked ↔ role = .server) →
    (Incremental.feed (decode cpu) (new role maxPayloadSize) [] chunks).error.isSome

/-- The item at a position is read from the frame at that position. -/
theorem feed_item {index : Nat} {frame : Frame}
    (item : (Incremental.feed (decode cpu) (new role maxPayloadSize) [] chunks).items[index]? =
      some frame) :
    ∃ wire, (framesOf chunks.flatten)[index]? = some wire ∧ frame = wire.readBy role ∧
      wire ∈ (framesOf chunks.flatten).takeWhile (new role maxPayloadSize).accepts := by
  rw [(feed_reads cpu role maxPayloadSize chunks).items, List.getElem?_map,
    Option.map_eq_some_iff] at item
  obtain ⟨wire, found, rfl⟩ := item
  exact ⟨wire, getElem?_of_takeWhile found, rfl, List.mem_of_getElem? found⟩

theorem accepts_of_mem_takeWhile {frames : List WireFrame} {wire : WireFrame}
    (member : wire ∈ frames.takeWhile (new role maxPayloadSize).accepts) :
    (new role maxPayloadSize).accepts wire :=
  List.mem_takeWhile_imp member

private theorem accepts_client :
    (new .client maxPayloadSize).accepts = (new .client maxPayloadSize).valid := by
  funext wire
  simp [accepts, show (new .client maxPayloadSize).role = .client from rfl]

private theorem accepts_server (wire : WireFrame) :
    (new .server maxPayloadSize).accepts wire =
      ((new .server maxPayloadSize).valid wire && wire.masked) := by
  simp [accepts, show (new .server maxPayloadSize).role = .server from rfl]

private theorem enforcesMasking_server : EnforcesMasking cpu .server maxPayloadSize chunks where
  returned item := by
    obtain ⟨wire, found, rfl, member⟩ := feed_item cpu .server maxPayloadSize chunks item
    have taken := accepts_of_mem_takeWhile .server maxPayloadSize member
    rw [accepts_server, Bool.and_eq_true] at taken
    exact ⟨wire, found, by simp [taken.2], rfl⟩
  refused wire member wrong := by
    refine (feed_reads cpu .server maxPayloadSize chunks).refused wire member ?_
    have plain : wire.masked = false := by simpa using wrong
    rw [accepts_server, plain, Bool.and_false]

private theorem enforcesMasking_client :
    EnforcesMasking cpu .client maxPayloadSize chunks ↔
      ∀ wire ∈ (framesOf chunks.flatten).takeWhile (new .client maxPayloadSize).valid,
        wire.masked = false := by
  constructor
  · intro enforced wire member
    rw [← accepts_client] at member
    obtain ⟨index, found⟩ := List.getElem?_of_mem member
    -- The decoder returns this frame, so its mask bit was the right one.
    have item : (Incremental.feed (decode cpu) (new .client maxPayloadSize) [] chunks).items[index]? =
        some (wire.readBy .client) := by
      rw [(feed_reads cpu .client maxPayloadSize chunks).items, List.getElem?_map, found]
      rfl
    obtain ⟨other, here, bit, -⟩ := enforced.returned item
    have same : some other = some wire :=
      here.symm.trans (getElem?_of_takeWhile found)
    rw [Option.some.injEq] at same
    subst same
    simpa using bit
  · intro plain
    constructor
    · intro index frame item
      obtain ⟨wire, found, rfl, member⟩ := feed_item cpu .client maxPayloadSize chunks item
      rw [accepts_client] at member
      have unmasked := plain wire member
      refine ⟨wire, found, by simp [unmasked], ?_⟩
      rw [WireFrame.meant_of_unmasked unmasked]
      rfl
    · intro wire member wrong
      have masked : wire.masked := by simpa using wrong
      -- A masked frame can only stand behind one that is refused.
      by_contra fine
      have every := (feed_reads cpu .client maxPayloadSize chunks).takeWhile_eq (by simpa using fine)
      rw [accepts_client] at every
      rw [every] at plain
      simp [plain wire member] at masked

/-- A server enforces masking on every stream. A client does exactly on the
streams without a masked frame among those it accepts the header of. -/
theorem enforcesMasking_iff :
    EnforcesMasking cpu role maxPayloadSize chunks ↔
      role = .server ∨
        ∀ wire ∈ (framesOf chunks.flatten).takeWhile (new role maxPayloadSize).valid,
          wire.masked = false := by
  cases role with
  | server => simpa using enforcesMasking_server cpu maxPayloadSize chunks
  | client => simpa using enforcesMasking_client cpu maxPayloadSize chunks

/-- A client hands out a masked frame as it came. -/
theorem client_reads_masked :
    ¬ EnforcesMasking .scalar .client 1048576 [[0x82, 0x81, 1, 2, 3, 4, 0x41]] := by
  intro enforced
  have item : (Incremental.feed (decode .scalar) (new .client 1048576) []
      [[0x82, 0x81, 1, 2, 3, 4, 0x41]]).items[0]? =
        some ⟨true, .binary, false, some ⟨1, 2, 3, 4⟩, [0x41]⟩ := by decide
  obtain ⟨wire, found, bit, -⟩ := enforced.returned item
  have first : (framesOf [[0x82, 0x81, 1, 2, 3, 4, 0x41]].flatten)[0]? =
      some ⟨⟨true, false, .binary, some ⟨1, 2, 3, 4⟩, 1⟩, [0x41]⟩ := by decide
  rw [first, Option.some.injEq] at found
  subst found
  simp [WireFrame.masked] at bit

end Masking

section ControlFrames

variable (chunks : List Bytes)

/-- A control frame that stands in one piece and in the short length form. -/
def LegalControl (opcode : OpCode) (fin : Bool) (length : Nat) : Prop :=
  opcode.isControl → fin ∧ length ≤ 125

/-- Only legal control frames come out of a stream, and any other one ends it
with an error. -/
structure EnforcesControl : Prop where
  returned : ∀ frame ∈
      (Incremental.feed (decode cpu) (new role maxPayloadSize) [] chunks).items,
    LegalControl frame.opcode frame.fin frame.payload.length
  refused : ∀ wire ∈ framesOf chunks.flatten,
    ¬ LegalControl wire.header.opcode wire.header.fin wire.body.length →
    (Incremental.feed (decode cpu) (new role maxPayloadSize) [] chunks).error.isSome

/-- The header checks leave only the length of a Close and a Pong open. -/
theorem legalControl_of_valid {wire : WireFrame} (valid : (new role maxPayloadSize).valid wire)
    (size : wire.body.length = wire.header.payloadLen)
    (short : wire.header.opcode = .close ∨ wire.header.opcode = .pong → wire.body.length ≤ 125) :
    LegalControl wire.header.opcode wire.header.fin wire.body.length := by
  intro control
  simp only [Decoder.valid, validate] at valid
  split at valid
  · simp at valid
  · rename_i unbroken
    split at valid
    · simp at valid
    · rename_i small
      have fin : wire.header.fin := by
        by_contra open_
        exact unbroken ⟨control, by simpa using open_⟩
      refine ⟨fin, ?_⟩
      rcases opcode : wire.header.opcode
      all_goals simp_all [OpCode.isControl]

/-- Exactly the streams where no Close and no Pong of more than 125 bytes
passes the other checks. -/
theorem enforcesControl_iff :
    EnforcesControl cpu role maxPayloadSize chunks ↔
      ∀ wire ∈ (framesOf chunks.flatten).takeWhile (new role maxPayloadSize).accepts,
        wire.header.opcode = .close ∨ wire.header.opcode = .pong → wire.body.length ≤ 125 := by
  have reads := feed_reads cpu role maxPayloadSize chunks
  constructor
  · intro enforced wire member opcode
    have returned := enforced.returned (wire.readBy role) (by
      rw [reads.items]
      exact List.mem_map_of_mem member)
    rw [WireFrame.length_readBy] at returned
    have control : (wire.readBy role).opcode.isControl := by
      rcases opcode with close | pong
      · simp [WireFrame.readBy, close, OpCode.isControl]
      · simp [WireFrame.readBy, pong, OpCode.isControl]
    exact (returned control).2
  · intro short
    have legal : ∀ wire ∈ (framesOf chunks.flatten).takeWhile (new role maxPayloadSize).accepts,
        LegalControl wire.header.opcode wire.header.fin wire.body.length := by
      intro wire member
      have taken := accepts_of_mem_takeWhile role maxPayloadSize member
      rw [accepts, Bool.and_eq_true] at taken
      exact legalControl_of_valid role maxPayloadSize taken.1
        (length_body_framesOf ((List.takeWhile_prefix _).subset member)) (short wire member)
    constructor
    · intro frame member
      rw [reads.items, List.mem_map] at member
      obtain ⟨wire, present, rfl⟩ := member
      rw [WireFrame.length_readBy]
      exact legal wire present
    · intro wire member illegal
      by_contra fine
      rw [reads.takeWhile_eq (by simpa using fine)] at legal
      exact illegal (legal wire member)

/-- A Pong of 126 bytes, unmasked. -/
def longPong : Bytes := [0x8A, 126, 0, 126] ++ List.replicate 126 0

theorem client_reads_longPong : ¬ EnforcesControl .scalar .client 1048576 [longPong] := by
  intro enforced
  have item : (⟨true, .pong, false, none, List.replicate 126 0⟩ : Frame) ∈
      (Incremental.feed (decode .scalar) (new .client 1048576) [] [longPong]).items := by
    decide +kernel
  have legal := enforced.returned _ item rfl
  simp at legal

end ControlFrames

end Decoder

end Yawc
