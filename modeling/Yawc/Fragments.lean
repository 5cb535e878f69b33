import Yawc.Frame

/-! The fragments an outgoing message is split into. -/

namespace Yawc

/-- A frame that carries part of a message. -/
structure PartOf (message frame : Frame) (size : Nat) : Prop where
  fits : frame.payload.length ≤ size
  mask : frame.mask = message.mask
  plain : frame.isCompressed → message.isCompressed

/-- The fragments behind the first, which carry the rest of the payload. -/
inductive Continues (size : Nat) (message : Frame) : Bytes → List Frame → Prop where
  | last {frame : Frame} {payload : Bytes} (part : PartOf message frame size)
      (opcode : frame.opcode = .continuation) (fin : frame.fin)
      (complete : payload = frame.payload) : Continues size message payload [frame]
  | more {frame : Frame} {payload behind : Bytes} {rest : List Frame}
      (part : PartOf message frame size) (opcode : frame.opcode = .continuation)
      (fin : frame.fin = false) (later : Continues size message behind rest)
      (complete : payload = frame.payload ++ behind) : Continues size message payload (frame :: rest)

/-- A message in one frame, or in fragments of which the first has its opcode. -/
inductive Fragmented (size : Nat) (message : Frame) : List Frame → Prop where
  | whole (fits : message.payload.length ≤ size) : Fragmented size message [message]
  | split {first : Frame} {behind : Bytes} {rest : List Frame}
      (part : PartOf message first size) (opcode : first.opcode = message.opcode)
      (fin : first.fin = false) (later : Continues size message behind rest)
      (complete : message.payload = first.payload ++ behind) :
      Fragmented size message (first :: rest)

private theorem Continues.partOf {size : Nat} {message : Frame} {payload : Bytes}
    {frames : List Frame}
    (continues : Continues size message payload frames) :
    ∀ frame ∈ frames, PartOf message frame size := by
  induction continues with
  | last part _ _ _ =>
    intro frame member
    rwa [List.mem_singleton.mp member]
  | more part _ _ _ _ ih =>
    intro frame member
    rcases List.mem_cons.mp member with rfl | later
    · exact part
    · exact ih frame later

private theorem Fragmented.partOf {size : Nat} {message : Frame} {frames : List Frame}
    (fragmented : Fragmented size message frames) : ∀ frame ∈ frames, PartOf message frame size := by
  cases fragmented with
  | whole fits =>
    intro frame member
    rw [List.mem_singleton.mp member]
    exact ⟨fits, rfl, id⟩
  | split part _ _ later _ =>
    intro frame member
    rcases List.mem_cons.mp member with rfl | behind
    · exact part
    · exact later.partOf frame behind

/-- Only the last fragment of a message is final. -/
theorem Continues.count_fin {size : Nat} {message : Frame} {payload : Bytes} {frames : List Frame}
    (continues : Continues size message payload frames) : frames.countP (·.fin) = 1 := by
  induction continues with
  | last _ _ fin _ => simp [fin]
  | more _ _ fin _ _ ih => simp [fin, ih]

private theorem Fragmented.count_fin {size : Nat} {message : Frame} {frames : List Frame}
    (fragmented : Fragmented size message frames) (whole : message.fin) :
    frames.countP (·.fin) = 1 := by
  cases fragmented with
  | whole _ => simp [whole]
  | split _ _ fin later _ => simp [fin, later.count_fin]

namespace Split

/-- A full fragment in front. -/
theorem partOf_take {size : Nat} {message frame : Frame} (mask : frame.mask = message.mask)
    (opcode : OpCode) :
    PartOf message (Frame.new false opcode frame.mask (frame.payload.take size)) size where
  fits := by simp [Frame.new]
  mask := mask
  plain := nofun

/-- The fragments behind the first. Each takes a byte off the payload at least. -/
theorem collect_continues {size : Nat} (positive : 0 < size) (message : Frame) (fuel index : Nat)
    (frame : Frame) (enough : frame.payload.length < fuel) (mask : frame.mask = message.mask)
    (plain : frame.isCompressed = message.isCompressed) :
    ∃ fragments, Split.collect (fuel + 1) ⟨index + 1, size, some frame⟩ = some fragments ∧
      Continues size message frame.payload fragments := by
  induction fuel generalizing index frame with
  | zero => omega
  | succ fuel ih =>
    by_cases fits : frame.payload.length ≤ size
    · refine ⟨[{ frame with fin := true, opcode := .continuation }], by simp [collect, next, fits], ?_⟩
      exact .last ⟨fits, mask, fun compressed => plain ▸ compressed⟩ rfl rfl rfl
    · have shorter : (frame.payload.drop size).length < fuel := by
        rw [List.length_drop]
        omega
      obtain ⟨fragments, collected, continues⟩ :=
        ih (index + 1) { frame with payload := frame.payload.drop size } shorter mask plain
      refine ⟨_, ?_, .more (partOf_take mask .continuation) rfl rfl continues
        (List.take_append_drop size frame.payload).symm⟩
      rw [collect]
      simp [next, fits, collected]

/-- The iterator comes to an end and splits the message. -/
theorem collect_fragmented {size : Nat} (positive : 0 < size) (message : Frame) :
    ∃ fragments,
      (message.intoFragments size).collect (message.payload.length + 2) = some fragments ∧
      Fragmented size message fragments := by
  by_cases fits : message.payload.length ≤ size
  · exact ⟨[message], by simp [collect, next, Frame.intoFragments, fits], .whole fits⟩
  · have shorter : (message.payload.drop size).length < message.payload.length := by
      rw [List.length_drop]
      omega
    obtain ⟨fragments, collected, continues⟩ :=
      collect_continues positive message message.payload.length 0
        { message with payload := message.payload.drop size } shorter rfl rfl
    refine ⟨_, ?_, .split (partOf_take rfl message.opcode) rfl rfl continues
      (List.take_append_drop size message.payload).symm⟩
    rw [collect]
    simp [next, Frame.intoFragments, fits, collected]

/-- Every fragment has the message's opcode or continues it. -/
theorem collect_opcode (fuel index size : Nat) (frame : Frame) {fragments : List Frame}
    (collected : Split.collect fuel ⟨index, size, some frame⟩ = some fragments) :
    ∀ fragment ∈ fragments, fragment.opcode = frame.opcode ∨ fragment.opcode = .continuation := by
  induction fuel generalizing index frame fragments with
  | zero => simp [collect] at collected
  | succ fuel ih =>
    by_cases fits : frame.payload.length ≤ size
    · cases fuel with
      | zero => simp [collect, next, fits] at collected
      | succ fuel =>
        simp only [collect, next, fits, ↓reduceIte, Option.map_some, Option.some.injEq] at collected
        intro fragment member
        rw [← collected, List.mem_singleton] at member
        subst member
        split <;> simp
    · simp only [collect, next, fits, ↓reduceIte, Option.map_eq_some_iff] at collected
      obtain ⟨rest, collected, rfl⟩ := collected
      intro fragment member
      rcases List.mem_cons.mp member with rfl | later
      · by_cases first : index = 0 <;> simp [Frame.new, first]
      · exact ih _ _ collected fragment later

end Split

/-- The frames a message is sent as. -/
def pieces (fragmentSize : Option Nat) (item : Frame) : List Frame :=
  match fragmentSize with
  | none => [item]
  | some size => ((item.intoFragments size).collect (item.payload.length + 2)).getD []

/-- How a message is to go out under a fragment size. -/
def SentAs (fragmentSize : Option Nat) (message : Frame) (frames : List Frame) : Prop :=
  match fragmentSize with
  | none => frames = [message]
  | some size => Fragmented size message frames

theorem pieces_sentAs {fragmentSize : Option Nat}
    (positive : ∀ size, fragmentSize = some size → 0 < size) (message : Frame) :
    SentAs fragmentSize message (pieces fragmentSize message) := by
  cases fragmentSize with
  | none => rfl
  | some size =>
    obtain ⟨fragments, collected, fragmented⟩ := Split.collect_fragmented (positive size rfl) message
    simpa [SentAs, pieces, collected] using fragmented

theorem SentAs.mask {fragmentSize : Option Nat} {message : Frame} {frames : List Frame}
    (sent : SentAs fragmentSize message frames) : ∀ frame ∈ frames, frame.mask = message.mask := by
  intro frame member
  cases fragmentSize with
  | none =>
    rw [SentAs] at sent
    rw [sent] at member
    rw [List.mem_singleton.mp member]
  | some size => exact (Fragmented.partOf sent frame member).mask

theorem SentAs.count_fin {fragmentSize : Option Nat} {message : Frame} {frames : List Frame}
    (sent : SentAs fragmentSize message frames) (whole : message.fin) :
    frames.countP (·.fin) = 1 := by
  cases fragmentSize with
  | none =>
    rw [SentAs] at sent
    simp [sent, whole]
  | some size => exact Fragmented.count_fin sent whole

theorem pieces_opcode (fragmentSize : Option Nat) (item : Frame) :
    ∀ piece ∈ pieces fragmentSize item,
      piece.opcode = item.opcode ∨ piece.opcode = .continuation := by
  intro piece member
  cases fragmentSize with
  | none => exact .inl (by rw [List.mem_singleton.mp member])
  | some size =>
    simp only [pieces] at member
    cases collected : (item.intoFragments size).collect (item.payload.length + 2) with
    | none => simp [collected] at member
    | some fragments =>
      rw [collected] at member
      exact Split.collect_opcode _ _ _ item collected piece member

end Yawc
