import Yawc.Frame

/-! The masking kernels and their common meaning: byte `i` of the buffer is
combined with byte `i mod 4` of the key. -/

namespace Yawc

inductive Endian where
  | little
  | big
  deriving DecidableEq, Repr

/-- A split of a buffer into leading bytes, 64-bit words and trailing bytes. -/
structure AlignedSplit (length : Nat) where
  lead : Nat
  words : Nat
  fits : lead + 8 * words ≤ length

/-- What the dispatcher and the kernels depend on: the byte order, the vector
units, and the split `align_to_mut` picks for a buffer. -/
structure Cpu where
  endian : Endian
  neon : Bool
  avx2 : Bool
  alignToMut : (buffer : Bytes) → AlignedSplit buffer.length

/-- A processor that works byte by byte. -/
def Cpu.scalar : Cpu := ⟨.little, false, false, fun _ => ⟨0, 0, Nat.zero_le _⟩⟩

section words

def byteAt (word : BitVec width) (index : Nat) : UInt8 :=
  UInt8.ofBitVec (word.extractLsb' (8 * index) 8)

/-- The word whose least significant byte comes first. -/
def wordOfBytes (b0 b1 b2 b3 : UInt8) : BitVec 32 :=
  b0.toBitVec.setWidth 32 ||| b1.toBitVec.setWidth 32 <<< 8 |||
    b2.toBitVec.setWidth 32 <<< 16 ||| b3.toBitVec.setWidth 32 <<< 24

def u32FromNeBytes : Endian → Mask → BitVec 32
  | .little, bytes => wordOfBytes bytes.first bytes.second bytes.third bytes.fourth
  | .big, bytes => wordOfBytes bytes.fourth bytes.third bytes.second bytes.first

def u32ToNeBytes : Endian → BitVec 32 → Mask
  | .little, word => ⟨byteAt word 0, byteAt word 1, byteAt word 2, byteAt word 3⟩
  | .big, word => ⟨byteAt word 3, byteAt word 2, byteAt word 1, byteAt word 0⟩

/-- A 64-bit word read from eight bytes, given as two groups of four. -/
def u64FromNeBytes (endian : Endian) (front back : Mask) : BitVec 64 :=
  let front := (u32FromNeBytes endian front).setWidth 64
  let back := (u32FromNeBytes endian back).setWidth 64
  match endian with
  | .little => front ||| back <<< 32
  | .big => front <<< 32 ||| back

def u64ToNeBytes (endian : Endian) (word : BitVec 64) : Mask × Mask :=
  let low := u32ToNeBytes endian (word.extractLsb' 0 32)
  let high := u32ToNeBytes endian (word.extractLsb' 32 32)
  match endian with
  | .little => (low, high)
  | .big => (high, low)

end words

section kernels

/-- A byte-by-byte pass that starts at key position `index`. -/
def maskFrom (mask : Mask) : Nat → Bytes → Bytes
  | _, [] => []
  | index, byte :: rest => (byte ^^^ mask.get index) :: maskFrom mask (index + 1) rest

def applyMaskFallback (buf : Bytes) (mask : Mask) : Bytes :=
  maskFrom mask 0 buf

/-- Four-byte blocks as words, the rest against the start of the key. -/
def maskBlocks (endian : Endian) : Bytes → Mask → Bytes
  | a :: b :: c :: d :: rest, mask =>
    (u32ToNeBytes endian (u32FromNeBytes endian ⟨a, b, c, d⟩ ^^^ u32FromNeBytes endian mask)).bytes
      ++ maskBlocks endian rest mask
  | tail, mask => List.zipWith (· ^^^ ·) tail mask.bytes

def applyMaskFast32 (cpu : Cpu) (buf : Bytes) (mask : Mask) : Bytes :=
  maskBlocks cpu.endian buf mask

/-- The key repeated to 64 bits and turned to where the words start. -/
def maskU64 (endian : Endian) (mask : Mask) (head : Nat) : BitVec 64 :=
  let word := u32FromNeBytes endian mask
  let word := (word.setWidth 64 <<< 32) ||| word.setWidth 64
  if 0 < head then
    match endian with
    | .big => word.rotateLeft (8 * head)
    | .little => word.rotateRight (8 * head)
  else word

/-- `*word ^= key` over whole words. -/
def xorWords (endian : Endian) (key : BitVec 64) : Bytes → Bytes
  | a :: b :: c :: d :: e :: f :: g :: h :: rest =>
    let word := u64ToNeBytes endian (u64FromNeBytes endian ⟨a, b, c, d⟩ ⟨e, f, g, h⟩ ^^^ key)
    word.1.bytes ++ word.2.bytes ++ xorWords endian key rest
  | tail => tail

def applyMaskFast64 (cpu : Cpu) (buf : Bytes) (mask : Mask) : Bytes :=
  let split := cpu.alignToMut buf
  let key := maskU64 cpu.endian mask (split.lead % 4)
  let words := (buf.drop split.lead).take (8 * split.words)
  let suffix := buf.drop (split.lead + 8 * split.words)
  applyMaskFallback (buf.take split.lead) mask ++ xorWords cpu.endian key words ++
    applyMaskFallback suffix (u32ToNeBytes cpu.endian (key.setWidth 32))

/-- A vector load, xor and store: every 32-bit lane against the key. -/
def xorVector (endian : Endian) (block : Bytes) (mask : Mask) : Bytes :=
  maskBlocks endian block mask

/-- 32-byte vectors from `offset` on, then single bytes. -/
def xorAvx2By32 (endian : Endian) (mask : Mask) : Nat → Nat → Bytes → Bytes
  | 0, offset, src => maskFrom mask offset src
  | fuel + 1, offset, src =>
    if 32 ≤ src.length then
      xorVector endian (src.take 32) mask ++
        xorAvx2By32 endian mask fuel (offset + 32) (src.drop 32)
    else maskFrom mask offset src

/-- Four vectors at a time while 128 bytes are left. -/
def xorAvx2By128 (endian : Endian) (mask : Mask) : Nat → Nat → Bytes → Bytes
  | 0, offset, src => xorAvx2By32 endian mask src.length offset src
  | fuel + 1, offset, src =>
    if 128 ≤ src.length then
      xorVector endian (src.take 32) mask ++ xorVector endian ((src.drop 32).take 32) mask ++
        xorVector endian ((src.drop 64).take 32) mask ++
        xorVector endian ((src.drop 96).take 32) mask ++
        xorAvx2By128 endian mask fuel (offset + 128) (src.drop 128)
    else xorAvx2By32 endian mask src.length offset src

def xorAvx2 (cpu : Cpu) (src : Bytes) (mask : Mask) : Bytes :=
  xorAvx2By128 cpu.endian mask src.length 0 src

def applyMaskAvx2 (cpu : Cpu) (buf : Bytes) (mask : Mask) : Bytes :=
  xorAvx2 cpu buf mask

/-- 16-byte vectors up to the aligned end, then the scalar kernel. -/
def applyMaskNeon (cpu : Cpu) (buf : Bytes) (mask : Mask) : Bytes :=
  if buf.length < 16 then applyMaskFast32 cpu buf mask
  else go buf.length buf
where
  go : Nat → Bytes → Bytes
  | 0, rest => applyMaskFast32 cpu rest mask
  | fuel + 1, rest =>
    if 16 ≤ rest.length then xorVector cpu.endian (rest.take 16) mask ++ go fuel (rest.drop 16)
    else applyMaskFast32 cpu rest mask

def applyMask (cpu : Cpu) (buf : Bytes) (mask : Mask) : Bytes :=
  if cpu.neon ∧ 16 ≤ buf.length then applyMaskNeon cpu buf mask
  else if buf.length ≤ 128 then applyMaskFast32 cpu buf mask
  else if 256 ≤ buf.length ∧ cpu.avx2 then applyMaskAvx2 cpu buf mask
  else applyMaskFast64 cpu buf mask

/-- The masked copy the encoder writes behind the header. -/
def copyMask (cpu : Cpu) (src : Bytes) (mask : Mask) : Bytes :=
  if 256 ≤ src.length ∧ cpu.avx2 then xorAvx2 cpu src mask
  else maskBlocks cpu.endian src mask

end kernels

section bits

private theorem byteAt_xor (x y : BitVec width) (index : Nat) :
    byteAt (x ^^^ y) index = byteAt x index ^^^ byteAt y index := by
  apply UInt8.toBitVec_inj.mp
  simp [byteAt, BitVec.extractLsb'_xor]

private theorem byteAt_eq {word : BitVec width} {index : Nat} {byte : UInt8}
    (bits : ∀ i, i < 8 → word.getLsbD (8 * index + i) = byte.toBitVec.getLsbD i) :
    byteAt word index = byte := by
  apply UInt8.toBitVec_inj.mp
  ext i small
  simpa [byteAt, BitVec.getLsbD_eq_getElem, small] using bits i small

private theorem bit_wordOfBytes (b0 b1 b2 b3 : UInt8) (i : Nat) (small : i < 32) :
    (wordOfBytes b0 b1 b2 b3).getLsbD i =
      ((Mask.mk b0 b1 b2 b3).get (i / 8)).toBitVec.getLsbD (i % 8) := by
  simp [wordOfBytes, Mask.get]
  grind

/-- Where a byte of memory sits in the word it is part of. -/
def Endian.place : Endian → Nat → Nat
  | .little, index => index
  | .big, index => 3 - index

private theorem u32_bit (endian : Endian) (bytes : Mask) (i : Nat) (small : i < 32) :
    (u32FromNeBytes endian bytes).getLsbD i =
      (bytes.get (endian.place (i / 8))).toBitVec.getLsbD (i % 8) := by
  cases endian with
  | little => exact bit_wordOfBytes _ _ _ _ i small
  | big =>
    rw [u32FromNeBytes, bit_wordOfBytes _ _ _ _ i small]
    simp only [Mask.get, Endian.place]
    grind

private theorem u32ToNeBytes_eq {endian : Endian} {word : BitVec 32} {bytes : Mask}
    (bits : ∀ i, i < 32 → word.getLsbD i = (u32FromNeBytes endian bytes).getLsbD i) :
    u32ToNeBytes endian word = bytes := by
  have byte (index : Nat) (four : index < 4) :
      byteAt word index = bytes.get (endian.place index) := by
    apply byteAt_eq
    intro i small
    rw [bits _ (by omega), u32_bit _ _ _ (by omega)]
    rw [show (8 * index + i) / 8 = index by omega, show (8 * index + i) % 8 = i by omega]
  cases endian <;>
    simp [u32ToNeBytes, byte, Endian.place, Mask.get]

private theorem u32ToNeBytes_fromNeBytes (endian : Endian) (bytes : Mask) :
    u32ToNeBytes endian (u32FromNeBytes endian bytes) = bytes :=
  u32ToNeBytes_eq fun _ _ => rfl

/-- Two groups of four bytes combined byte by byte. -/
def Mask.xor (left right : Mask) : Mask :=
  ⟨left.first ^^^ right.first, left.second ^^^ right.second, left.third ^^^ right.third,
    left.fourth ^^^ right.fourth⟩

private theorem u32ToNeBytes_xor (endian : Endian) (x y : BitVec 32) :
    u32ToNeBytes endian (x ^^^ y) = (u32ToNeBytes endian x).xor (u32ToNeBytes endian y) := by
  cases endian <;> simp [u32ToNeBytes, Mask.xor, byteAt_xor]

private theorem u64ToNeBytes_xor (endian : Endian) (front back : Mask) (key : BitVec 64) :
    u64ToNeBytes endian (u64FromNeBytes endian front back ^^^ key) =
      (front.xor (u64ToNeBytes endian key).1, back.xor (u64ToNeBytes endian key).2) := by
  have halves : (u64ToNeBytes endian (u64FromNeBytes endian front back)) = (front, back) := by
    cases endian <;>
      · simp only [u64ToNeBytes, u64FromNeBytes, Prod.mk.injEq]
        refine ⟨u32ToNeBytes_eq ?_, u32ToNeBytes_eq ?_⟩ <;>
          · intro i small
            simp only [BitVec.getLsbD_extractLsb', BitVec.getLsbD_or, BitVec.getLsbD_shiftLeft,
              BitVec.getLsbD_setWidth]
            grind
  have parts : ∀ word, u64ToNeBytes endian (word ^^^ key) =
      ((u64ToNeBytes endian word).1.xor (u64ToNeBytes endian key).1,
        (u64ToNeBytes endian word).2.xor (u64ToNeBytes endian key).2) := by
    intro word
    cases endian <;> simp [u64ToNeBytes, BitVec.extractLsb'_xor, u32ToNeBytes_xor]
  rw [parts, halves]

theorem Mask.get_congr (mask : Mask) (first second : Nat) (same : first % 4 = second % 4) :
    mask.get first = mask.get second := by
  simp only [Mask.get, same]

/-- The key as seen from position `head` on. -/
def Mask.turn (mask : Mask) (head : Nat) : Mask :=
  ⟨mask.get head, mask.get (head + 1), mask.get (head + 2), mask.get (head + 3)⟩

theorem Mask.get_turn (mask : Mask) (head index : Nat) :
    (mask.turn head).get index = mask.get (head + index) := by
  simp only [Mask.turn, Mask.get]
  grind

private theorem bit_rotateRight (word : BitVec 64) (head i : Nat) (small : i < 64) :
    (word.rotateRight (8 * head)).getLsbD i = word.getLsbD ((i + 8 * head) % 64) := by
  rw [BitVec.getLsbD_rotateRight]
  by_cases low : i < 64 - 8 * head % 64
  · rw [show (i + 8 * head) % 64 = 8 * head % 64 + i by omega]
    simp [low]
  · rw [show (i + 8 * head) % 64 = i - (64 - 8 * head % 64) by omega]
    simp [low, small]

private theorem bit_rotateLeft (word : BitVec 64) (head i : Nat) (quarter : head < 4)
    (small : i < 64) :
    (word.rotateLeft (8 * head)).getLsbD i = word.getLsbD ((i + 64 - 8 * head) % 64) := by
  rw [BitVec.getLsbD_rotateLeft]
  by_cases low : i < 8 * head % 64
  · rw [show (i + 64 - 8 * head) % 64 = 64 - 8 * head % 64 + i by omega]
    simp [low]
  · rw [show (i + 64 - 8 * head) % 64 = i - 8 * head % 64 by omega]
    simp [low, small]

private theorem bit_twice (word : BitVec 32) (i : Nat) (small : i < 64) :
    (word.setWidth 64 <<< 32 ||| word.setWidth 64).getLsbD i = word.getLsbD (i % 32) := by
  simp only [BitVec.getLsbD_or, BitVec.getLsbD_shiftLeft, BitVec.getLsbD_setWidth]
  grind

private theorem maskU64_bit (endian : Endian) (mask : Mask) (head i : Nat) (quarter : head < 4)
    (small : i < 64) :
    (maskU64 endian mask head).getLsbD i =
      (u32FromNeBytes endian (mask.turn head)).getLsbD (i % 32) := by
  rw [u32_bit _ _ _ (Nat.mod_lt _ (by decide)), Mask.get_turn]
  simp only [maskU64]
  split
  · cases endian with
    | little =>
      simp only
      rw [bit_rotateRight _ _ _ small, bit_twice _ _ (Nat.mod_lt _ (by decide)),
        u32_bit _ _ _ (Nat.mod_lt _ (by decide))]
      rw [mask.get_congr _ (head + Endian.little.place (i % 32 / 8))
        (by simp only [Endian.place]; omega)]
      congr 1
      omega
    | big =>
      simp only
      rw [bit_rotateLeft _ _ _ quarter small, bit_twice _ _ (Nat.mod_lt _ (by decide)),
        u32_bit _ _ _ (Nat.mod_lt _ (by decide))]
      rw [mask.get_congr _ (head + Endian.big.place (i % 32 / 8))
        (by simp only [Endian.place]; omega)]
      congr 1
      omega
  · rw [bit_twice _ _ small, u32_bit _ _ _ (Nat.mod_lt _ (by decide))]
    rw [show head = 0 by omega, Nat.zero_add]

/-- In memory the rotated 64-bit key is the turned key, twice. -/
private theorem u64ToNeBytes_maskU64 (endian : Endian) (mask : Mask) (head : Nat)
    (quarter : head < 4) :
    u64ToNeBytes endian (maskU64 endian mask head) = (mask.turn head, mask.turn head) := by
  have half (start : Nat) (aligned : start % 32 = 0) (inside : start ≤ 32) :
      u32ToNeBytes endian ((maskU64 endian mask head).extractLsb' start 32) = mask.turn head := by
    apply u32ToNeBytes_eq
    intro i small
    rw [BitVec.getLsbD_extractLsb', maskU64_bit _ _ _ _ quarter (by omega)]
    simp [small, show (start + i) % 32 = i by omega]
  cases endian <;> simp [u64ToNeBytes, half]

theorem u32ToNeBytes_maskU64 (endian : Endian) (mask : Mask) (head : Nat)
    (quarter : head < 4) :
    u32ToNeBytes endian ((maskU64 endian mask head).setWidth 32) = mask.turn head := by
  apply u32ToNeBytes_eq
  intro i small
  rw [BitVec.getLsbD_setWidth, maskU64_bit _ _ _ _ quarter (by omega)]
  simp [small, Nat.mod_eq_of_lt small]

end bits

section meaning

@[simp] theorem length_maskFrom (mask : Mask) (index : Nat) (buf : Bytes) :
    (maskFrom mask index buf).length = buf.length := by
  induction buf generalizing index with
  | nil => rfl
  | cons byte rest ih => simp [maskFrom, ih]

theorem getElem?_maskFrom (mask : Mask) (index place : Nat) (buf : Bytes) :
    (maskFrom mask index buf)[place]? = (buf[place]?).map (· ^^^ mask.get (index + place)) := by
  induction buf generalizing index place with
  | nil => rfl
  | cons byte rest ih =>
    cases place with
    | zero => rfl
    | succ place =>
      simp only [maskFrom, List.getElem?_cons_succ, ih]
      rw [show index + 1 + place = index + (place + 1) by omega]

theorem maskFrom_append (mask : Mask) (index : Nat) (front back : Bytes) :
    maskFrom mask index (front ++ back) =
      maskFrom mask index front ++ maskFrom mask (index + front.length) back := by
  induction front generalizing index with
  | nil => rfl
  | cons byte rest ih =>
    simp only [List.cons_append, maskFrom, List.length_cons, ih]
    rw [show index + 1 + rest.length = index + (rest.length + 1) by omega]

theorem maskFrom_congr (mask : Mask) (buf : Bytes) (first second : Nat)
    (same : first % 4 = second % 4) : maskFrom mask first buf = maskFrom mask second buf := by
  induction buf generalizing first second with
  | nil => rfl
  | cons byte rest ih =>
    simp only [maskFrom]
    rw [mask.get_congr first second same, ih (first + 1) (second + 1) (by omega)]

theorem maskFrom_turn (mask : Mask) (head index : Nat) (buf : Bytes) :
    maskFrom (mask.turn head) index buf = maskFrom mask (head + index) buf := by
  induction buf generalizing index with
  | nil => rfl
  | cons byte rest ih => simp only [maskFrom, Mask.get_turn, ih, Nat.add_assoc]

/-- Masking is its own inverse. -/
theorem maskFrom_maskFrom (mask : Mask) (index : Nat) (buf : Bytes) :
    maskFrom mask index (maskFrom mask index buf) = buf := by
  induction buf generalizing index with
  | nil => rfl
  | cons byte rest ih =>
    simp only [maskFrom, ih, UInt8.xor_assoc, UInt8.xor_self, UInt8.xor_zero]

private theorem maskFrom_four (mask : Mask) (index : Nat) (a b c d : UInt8) (rest : Bytes)
    (aligned : index % 4 = 0) :
    maskFrom mask index (a :: b :: c :: d :: rest) =
      ((Mask.mk a b c d).xor mask).bytes ++ maskFrom mask index rest := by
  have later : maskFrom mask (index + 1 + 1 + 1 + 1) rest = maskFrom mask index rest :=
    maskFrom_congr mask rest _ _ (by omega)
  have key (offset : Nat) : mask.get (index + offset) = mask.get offset :=
    mask.get_congr _ _ (by omega)
  simp only [maskFrom, later, Nat.add_assoc, Mask.bytes, Mask.xor]
  rw [show mask.get index = mask.get 0 from key 0, key, key, key]
  rfl

theorem maskBlocks_eq (endian : Endian) (buf : Bytes) (mask : Mask) :
    maskBlocks endian buf mask = maskFrom mask 0 buf := by
  fun_induction maskBlocks endian buf mask with
  | case1 mask a b c d rest ih =>
    rw [maskFrom_four _ _ _ _ _ _ _ (by decide), ih, u32ToNeBytes_xor, u32ToNeBytes_fromNeBytes,
      u32ToNeBytes_fromNeBytes]
  | case2 tail mask short =>
    match tail, short with
    | [], _ => rfl
    | [_], _ => rfl
    | [_, _], _ => rfl
    | [_, _, _], _ => rfl
    | a :: b :: c :: d :: rest, short => exact (short a b c d rest rfl).elim

theorem xorWords_eq (endian : Endian) (mask : Mask) (head : Nat) (quarter : head < 4)
    (count : Nat) (buf : Bytes) (whole : buf.length = 8 * count) :
    xorWords endian (maskU64 endian mask head) buf = maskFrom mask head buf := by
  rw [← Nat.add_zero head, ← maskFrom_turn, Nat.add_zero]
  induction count generalizing buf with
  | zero =>
    have none : buf = [] := List.eq_nil_of_length_eq_zero (by omega)
    subst none
    rfl
  | succ count ih =>
    match buf, whole with
    | a :: b :: c :: d :: e :: f :: g :: h :: rest, whole =>
      have shorter := ih rest (by simp only [List.length_cons] at whole; omega)
      rw [xorWords, u64ToNeBytes_xor, u64ToNeBytes_maskU64 _ _ _ quarter]
      simp only [shorter]
      rw [maskFrom_four _ _ _ _ _ _ _ (by decide), maskFrom_four _ _ _ _ _ _ _ (by decide),
        List.append_assoc]

private theorem applyMaskFast64_eq (cpu : Cpu) (buf : Bytes) (mask : Mask) :
    applyMaskFast64 cpu buf mask = maskFrom mask 0 buf := by
  simp only [applyMaskFast64, applyMaskFallback]
  generalize cpu.alignToMut buf = split
  obtain ⟨lead, words, fits⟩ := split
  have quarter : lead % 4 < 4 := Nat.mod_lt _ (by decide)
  have middle : ((buf.drop lead).take (8 * words)).length = 8 * words := by
    rw [List.length_take, List.length_drop]
    omega
  rw [xorWords_eq _ _ _ quarter words _ middle, u32ToNeBytes_maskU64 _ _ _ quarter, maskFrom_turn]
  have pieces : buf = buf.take lead ++ ((buf.drop lead).take (8 * words) ++
      buf.drop (lead + 8 * words)) := by
    rw [← List.drop_drop, List.take_append_drop, List.take_append_drop]
  have start : (buf.take lead).length = lead := by
    rw [List.length_take]
    omega
  conv => rhs; rw [pieces]
  rw [maskFrom_append, maskFrom_append, start, middle, List.append_assoc,
    maskFrom_congr mask _ (0 + lead) (lead % 4) (by omega),
    maskFrom_congr mask _ (0 + lead + 8 * words) (lead % 4 + 0) (by omega)]

private theorem maskFrom_take (mask : Mask) (offset size : Nat) (buf : Bytes)
    (aligned : offset % 4 = 0) (inside : size ≤ buf.length) :
    maskFrom mask offset buf =
      maskFrom mask 0 (buf.take size) ++ maskFrom mask (offset + size) (buf.drop size) := by
  have start : (buf.take size).length = size := by
    rw [List.length_take]
    omega
  conv => lhs; rw [← List.take_append_drop size buf]
  rw [maskFrom_append, start, maskFrom_congr mask _ offset 0 (by omega)]

private theorem xorAvx2By32_eq (endian : Endian) (mask : Mask) (fuel offset : Nat) (src : Bytes)
    (aligned : offset % 4 = 0) :
    xorAvx2By32 endian mask fuel offset src = maskFrom mask offset src := by
  induction fuel generalizing offset src with
  | zero => rfl
  | succ fuel ih =>
    simp only [xorAvx2By32]
    split
    · rename_i long
      rw [maskFrom_take mask offset 32 src aligned long, ih _ _ (by omega), xorVector,
        maskBlocks_eq]
    · rfl

private theorem xorAvx2By128_eq (endian : Endian) (mask : Mask) (fuel offset : Nat) (src : Bytes)
    (aligned : offset % 4 = 0) :
    xorAvx2By128 endian mask fuel offset src = maskFrom mask offset src := by
  induction fuel generalizing offset src with
  | zero => exact xorAvx2By32_eq endian mask _ _ _ aligned
  | succ fuel ih =>
    simp only [xorAvx2By128]
    split
    · rename_i long
      have left : (src.drop 96).length = src.length - 96 := List.length_drop
      rw [maskFrom_take mask offset 32 src aligned (by omega),
        maskFrom_take mask (offset + 32) 32 (src.drop 32) (by omega) (by simp; omega),
        List.drop_drop,
        maskFrom_take mask (offset + 32 + 32) 32 (src.drop 64) (by omega) (by simp; omega),
        List.drop_drop,
        maskFrom_take mask (offset + 32 + 32 + 32) 32 (src.drop 96) (by omega) (by omega),
        List.drop_drop, ih _ _ (by omega)]
      simp only [xorVector, maskBlocks_eq, List.append_assoc]
    · exact xorAvx2By32_eq endian mask _ _ _ aligned

theorem xorAvx2_eq (cpu : Cpu) (src : Bytes) (mask : Mask) :
    xorAvx2 cpu src mask = maskFrom mask 0 src :=
  xorAvx2By128_eq cpu.endian mask _ 0 src rfl

private theorem applyMaskNeon_go_eq (cpu : Cpu) (mask : Mask) (fuel : Nat) (rest : Bytes) :
    applyMaskNeon.go cpu mask fuel rest = maskFrom mask 0 rest := by
  induction fuel generalizing rest with
  | zero => exact maskBlocks_eq _ _ _
  | succ fuel ih =>
    simp only [applyMaskNeon.go]
    split
    · rename_i long
      rw [maskFrom_take mask 0 16 rest rfl long, ih, xorVector, maskBlocks_eq,
        maskFrom_congr mask _ (0 + 16) 0 rfl]
    · exact maskBlocks_eq _ _ _

private theorem applyMaskNeon_eq (cpu : Cpu) (buf : Bytes) (mask : Mask) :
    applyMaskNeon cpu buf mask = maskFrom mask 0 buf := by
  unfold applyMaskNeon
  split
  · exact maskBlocks_eq _ _ _
  · exact applyMaskNeon_go_eq cpu mask _ buf

/-- Whichever kernel the dispatcher picks, the buffer is masked from position 0. -/
theorem applyMask_eq (cpu : Cpu) (buf : Bytes) (mask : Mask) :
    applyMask cpu buf mask = maskFrom mask 0 buf := by
  unfold applyMask
  split
  · exact applyMaskNeon_eq cpu buf mask
  · split
    · exact maskBlocks_eq _ _ _
    · split
      · exact xorAvx2_eq cpu buf mask
      · exact applyMaskFast64_eq cpu buf mask

theorem copyMask_eq (cpu : Cpu) (src : Bytes) (mask : Mask) :
    copyMask cpu src mask = maskFrom mask 0 src := by
  unfold copyMask
  split
  · exact xorAvx2_eq cpu src mask
  · exact maskBlocks_eq _ _ _

end meaning

end Yawc
