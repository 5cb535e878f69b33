import Yawc.Library.Memory
import Yawc.Mask

/-! The masking kernels as they go through memory, load by load and store by
store. Each of them masks its buffer, reads and writes nothing else, and leaves
in memory what the kernel on byte lists computes. -/

namespace Yawc.Pointers

open Memory

section Kernels

/-- One block is loaded, combined with the key and stored. -/
def xorBlock (size : Nat) (compute : Bytes → Bytes) (src dst : Nat) (machine : Machine) : Machine :=
  let (block, machine) := machine.load src size
  machine.store dst (compute block)

/-- Single bytes from `index` up to `len`. -/
def xorRange (key : Nat → UInt8) (src dst len index : Nat) (machine : Machine) : Machine :=
  if index < len then
    xorRange key src dst len (index + 1)
      (xorBlock 1 (·.map (· ^^^ key index)) (src + index) (dst + index) machine)
  else machine
termination_by len - index

/-- So many blocks one after the other. -/
def xorBlocks (size : Nat) (compute : Bytes → Bytes) (src dst : Nat) :
    Nat → Machine → Machine
  | 0, machine => machine
  | count + 1, machine =>
    xorBlocks size compute (src + size) (dst + size) count (xorBlock size compute src dst machine)

def applyMaskFallback (ptr len : Nat) (mask : Mask) (machine : Machine) : Machine :=
  xorRange mask.get ptr ptr len 0 machine

/-- Four-byte chunks, and the remainder zipped with the key. -/
def xorFast32 (cpu : Cpu) (src dst len : Nat) (mask : Mask) (machine : Machine) : Machine :=
  let whole := 4 * (len / 4)
  let machine := xorBlocks 4 (maskBlocks cpu.endian · mask) src dst (len / 4) machine
  xorRange (fun index => (mask.bytes[index]?).getD 0) (src + whole) (dst + whole)
    (min (len % 4) mask.bytes.length) 0 machine

def applyMaskFast32 (cpu : Cpu) (ptr len : Nat) (mask : Mask) (machine : Machine) : Machine :=
  xorFast32 cpu ptr ptr len mask machine

def applyMaskFast64 (cpu : Cpu) (ptr len : Nat) (mask : Mask) (machine : Machine) : Machine :=
  let split := cpu.alignToMut (read machine.memory ptr len)
  let machine := applyMaskFallback ptr split.lead mask machine
  let key := maskU64 cpu.endian mask (split.lead % 4)
  let words := ptr + split.lead
  let machine := xorBlocks 8 (xorWords cpu.endian key) words words split.words machine
  applyMaskFallback (words + 8 * split.words) (len - split.lead - 8 * split.words)
    (u32ToNeBytes cpu.endian (key.setWidth 32)) machine

/-- A round of four vectors. All of them are loaded before the first is stored. -/
def xorFour (endian : Endian) (src dst : Nat) (mask : Mask) (offset : Nat) (machine : Machine) :
    Machine :=
  let (a, machine) := machine.load (src + offset) 32
  let (b, machine) := machine.load (src + (offset + 32)) 32
  let (c, machine) := machine.load (src + (offset + 64)) 32
  let (d, machine) := machine.load (src + (offset + 96)) 32
  let machine := machine.store (dst + offset) (xorVector endian a mask)
  let machine := machine.store (dst + (offset + 32)) (xorVector endian b mask)
  let machine := machine.store (dst + (offset + 64)) (xorVector endian c mask)
  machine.store (dst + (offset + 96)) (xorVector endian d mask)

def xorAvx2By128 (endian : Endian) (src dst len : Nat) (mask : Mask) (offset : Nat)
    (machine : Machine) : Nat × Machine :=
  if 128 ≤ len - offset then
    xorAvx2By128 endian src dst len mask (offset + 128) (xorFour endian src dst mask offset machine)
  else (offset, machine)
termination_by len - offset
decreasing_by omega

def xorAvx2By32 (endian : Endian) (src dst len : Nat) (mask : Mask) (offset : Nat)
    (machine : Machine) : Nat × Machine :=
  if 32 ≤ len - offset then
    xorAvx2By32 endian src dst len mask (offset + 32)
      (xorBlock 32 (xorVector endian · mask) (src + offset) (dst + offset) machine)
  else (offset, machine)
termination_by len - offset

def xorAvx2 (cpu : Cpu) (src dst len : Nat) (mask : Mask) (machine : Machine) : Machine :=
  let (offset, machine) := xorAvx2By128 cpu.endian src dst len mask 0 machine
  let (offset, machine) := xorAvx2By32 cpu.endian src dst len mask offset machine
  xorRange mask.get src dst len offset machine

def applyMaskAvx2 (cpu : Cpu) (ptr len : Nat) (mask : Mask) (machine : Machine) : Machine :=
  xorAvx2 cpu ptr ptr len mask machine

/-- Vectors of 16 bytes from `ptr` up to the aligned end. -/
def xorNeon (endian : Endian) (mask : Mask) (alignedEnd ptr : Nat) (machine : Machine) :
    Nat × Machine :=
  if ptr < alignedEnd then
    xorNeon endian mask alignedEnd (ptr + 16)
      (xorBlock 16 (xorVector endian · mask) ptr ptr machine)
  else (ptr, machine)
termination_by alignedEnd - ptr

def applyMaskNeon (cpu : Cpu) (buf len : Nat) (mask : Mask) (machine : Machine) : Machine :=
  if len < 16 then applyMaskFast32 cpu buf len mask machine
  else
    let (ptr, machine) := xorNeon cpu.endian mask (buf + (len - len % 16)) buf machine
    let remaining := buf + len - ptr
    if 0 < remaining then applyMaskFast32 cpu ptr remaining mask machine else machine

def applyMask (cpu : Cpu) (ptr len : Nat) (mask : Mask) (machine : Machine) : Machine :=
  if cpu.neon ∧ 16 ≤ len then applyMaskNeon cpu ptr len mask machine
  else if len ≤ 128 then applyMaskFast32 cpu ptr len mask machine
  else if 256 ≤ len ∧ cpu.avx2 then applyMaskAvx2 cpu ptr len mask machine
  else applyMaskFast64 cpu ptr len mask machine

/-- It panics on slices of different lengths. -/
def copyMask (cpu : Cpu) (src srcLen dst dstLen : Nat) (mask : Mask) (machine : Machine) :
    Option Machine :=
  if srcLen = dstLen then
    if 256 ≤ srcLen ∧ cpu.avx2 then some (xorAvx2 cpu src dst srcLen mask machine)
    else some (xorFast32 cpu src dst srcLen mask machine)
  else none

end Kernels

section Progress

/-- The source and the target are one stretch, or have no byte in common. -/
def Apart (src dst len : Nat) : Prop := src = dst ∨ src + len ≤ dst ∨ dst + len ≤ src

/-- The first `offset` bytes are masked, and nothing else was touched. -/
structure Done (mask : Mask) (src dst len offset : Nat) (before after : Machine) : Prop where
  masked : ∀ index, index < offset →
    after.memory (dst + index) = before.memory (src + index) ^^^ mask.get index
  kept : ∀ place, place < dst ∨ dst + offset ≤ place → after.memory place = before.memory place
  confined : Machine.Confined src dst len before after

variable {mask : Mask} {src dst len offset : Nat} {before after : Machine}

theorem Done.start (mask : Mask) (src dst len : Nat) (machine : Machine) :
    Done mask src dst len 0 machine machine :=
  ⟨by simp, fun _ _ => rfl, .refl src dst len machine⟩

/-- What is loaded from behind the masked bytes is what was there at first. -/
theorem Done.unread (done : Done mask src dst len offset before after) (apart : Apart src dst len)
    {place size : Nat} (behind : offset ≤ place) (inside : place + size ≤ len) :
    read after.memory (src + place) size = read before.memory (src + place) size := by
  apply read_congr
  intro index small
  apply done.kept
  unfold Apart at apart
  omega

theorem Done.load (done : Done mask src dst len offset before after) (place size : Nat)
    (inside : place + size ≤ len) :
    Done mask src dst len offset before (after.load (src + place) size).2 :=
  ⟨done.masked, done.kept, done.confined.load (by omega) (by omega)⟩

theorem Done.store (done : Done mask src dst len offset before after) {size : Nat} {bytes : Bytes}
    (inside : offset + size ≤ len)
    (made : bytes = maskFrom mask offset (Memory.read before.memory (src + offset) size)) :
    Done mask src dst len (offset + size) before (after.store (dst + offset) bytes) := by
  have length : bytes.length = size := by rw [made, length_maskFrom, length_read]
  refine ⟨?_, ?_, done.confined.store (by omega) (by omega)⟩
  · intro index small
    by_cases earlier : index < offset
    · rw [Machine.store_memory, write_outside (by omega)]
      exact done.masked index earlier
    · apply write_inside (by omega)
      rw [made, getElem?_maskFrom, getElem?_read (by omega), Option.map_some]
      rw [show src + offset + (dst + index - (dst + offset)) = src + index by omega,
        show offset + (dst + index - (dst + offset)) = index by omega]
  · intro place outside
    rw [Machine.store_memory, write_outside (by omega)]
    exact done.kept place (by omega)

theorem Done.block (done : Done mask src dst len offset before after) (apart : Apart src dst len)
    (size : Nat) (inside : offset + size ≤ len) (compute : Bytes → Bytes)
    (computes : ∀ block : Bytes, block.length = size → compute block = maskFrom mask offset block) :
    Done mask src dst len (offset + size) before
      (xorBlock size compute (src + offset) (dst + offset) after) := by
  apply (done.load offset size inside).store inside
  rw [computes _ (length_read _ _ _), done.unread apart (le_refl offset) inside]

end Progress

section Loops

variable {mask : Mask} {src dst len : Nat} {before after : Machine}

/-- A pass over single bytes of the part of the buffer that starts at `base`. -/
theorem xorRange_done (key : Nat → UInt8) (base count : Nat) {index : Nat}
    (apart : Apart src dst len)
    (keyed : ∀ index, index < count → key index = mask.get (base + index))
    (inside : base + count ≤ len) (started : index ≤ count)
    (done : Done mask src dst len (base + index) before after) :
    Done mask src dst len (base + count) before
      (xorRange key (src + base) (dst + base) count index after) := by
  fun_induction xorRange key (src + base) (dst + base) count index after with
  | case1 index machine more ih =>
    apply ih (by omega)
    have here := done.block apart 1 (by omega) (·.map (· ^^^ key index)) (by
      intro block one
      obtain ⟨byte, rfl⟩ := List.length_eq_one_iff.mp one
      simp [maskFrom, keyed index more])
    simpa only [Nat.add_assoc] using here
  | case2 index machine ended =>
    obtain rfl : index = count := by omega
    exact done

/-- Blocks of whole words of the part that starts at `offset`. -/
theorem xorBlocks_done (size : Nat) (compute : Bytes → Bytes) (offset count : Nat)
    (apart : Apart src dst len) (words : size % 4 = 0) (inside : offset + size * count ≤ len)
    (computes : ∀ block : Bytes, block.length = size → compute block = maskFrom mask offset block)
    (done : Done mask src dst len offset before after) :
    Done mask src dst len (offset + size * count) before
      (xorBlocks size compute (src + offset) (dst + offset) count after) := by
  induction count generalizing offset after with
  | zero => exact done
  | succ count ih =>
    rw [Nat.mul_succ] at inside ⊢
    have first := done.block apart size (by omega) compute computes
    have later := ih (offset + size) (by omega) (by
      intro block whole
      rw [computes block whole]
      exact maskFrom_congr mask block _ _ (by omega)) first
    rw [show offset + (size * count + size) = offset + size + size * count by omega]
    simpa only [xorBlocks, Nat.add_assoc] using later

theorem xorFast32_done (cpu : Cpu) (base count : Nat) (apart : Apart src dst len)
    (aligned : base % 4 = 0) (inside : base + count ≤ len)
    (done : Done mask src dst len base before after) :
    Done mask src dst len (base + count) before
      (xorFast32 cpu (src + base) (dst + base) count mask after) := by
  have chunks := xorBlocks_done 4 (maskBlocks cpu.endian · mask) base (count / 4) apart rfl
    (by omega) (by
      intro block _
      rw [maskBlocks_eq]
      exact maskFrom_congr mask block _ _ (by omega)) done
  have rest : min (count % 4) mask.bytes.length = count % 4 := by
    simp only [Mask.bytes, List.length_cons, List.length_nil]
    omega
  have finished := xorRange_done (fun index => (mask.bytes[index]?).getD 0)
    (base + 4 * (count / 4)) (count % 4) apart (by
      intro index small
      rw [mask.get_congr (base + 4 * (count / 4) + index) index (by omega)]
      have four : index < 4 := by omega
      interval_cases index <;> rfl) (by omega) (Nat.zero_le _) chunks
  unfold xorFast32
  rw [rest]
  rw [show base + 4 * (count / 4) + count % 4 = base + count by omega] at finished
  simpa only [Nat.add_assoc] using finished

/-- The prefix and the suffix against the key as it stands there, the words
against the turned key. -/
theorem applyMaskFast64_done (cpu : Cpu) (mask : Mask) (ptr len : Nat) (machine : Machine) :
    Done mask ptr ptr len len machine (applyMaskFast64 cpu ptr len mask machine) := by
  unfold applyMaskFast64
  generalize cpu.alignToMut (read machine.memory ptr len) = split
  obtain ⟨lead, words, fits⟩ := split
  rw [length_read] at fits
  have quarter : lead % 4 < 4 := Nat.mod_lt _ (by decide)
  have start := xorRange_done mask.get 0 lead (.inl rfl) (fun index _ => by rw [Nat.zero_add])
    (by omega) (Nat.zero_le _) (Done.start mask ptr ptr len machine)
  have middle := xorBlocks_done 8 (xorWords cpu.endian (maskU64 cpu.endian mask (lead % 4)))
    (0 + lead) words (.inl rfl) rfl (by omega) (by
      intro block whole
      rw [xorWords_eq _ _ _ quarter 1 _ whole]
      exact maskFrom_congr mask block _ _ (by omega)) start
  have last := xorRange_done (mask.turn (lead % 4)).get (0 + lead + 8 * words)
    (len - lead - 8 * words) (.inl rfl) (by
      intro index _
      rw [Mask.get_turn]
      exact mask.get_congr _ _ (by omega)) (by omega) (Nat.zero_le _) middle
  rw [show 0 + lead + 8 * words + (len - lead - 8 * words) = len by omega] at last
  simp only [u32ToNeBytes_maskU64 _ _ _ quarter, applyMaskFallback]
  simpa only [Nat.zero_add, Nat.add_zero, Nat.add_assoc] using last

end Loops

section Vectors

variable {mask : Mask} {src dst len offset : Nat} {before after : Machine}

theorem xorVector_eq (endian : Endian) (mask : Mask) (aligned : offset % 4 = 0) (block : Bytes) :
    xorVector endian block mask = maskFrom mask offset block := by
  rw [xorVector, maskBlocks_eq]
  exact maskFrom_congr mask block _ _ (by omega)

private theorem xorFour_done (endian : Endian) (apart : Apart src dst len)
    (aligned : offset % 4 = 0)
    (inside : offset + 128 ≤ len) (done : Done mask src dst len offset before after) :
    Done mask src dst len (offset + 128) before (xorFour endian src dst mask offset after) := by
  have vector (place : Nat) (behind : offset ≤ place) (fits : place + 32 ≤ len)
      (whole : place % 4 = 0) :
      xorVector endian (read after.memory (src + place) 32) mask =
        maskFrom mask place (read before.memory (src + place) 32) := by
    rw [done.unread apart behind fits]
    exact xorVector_eq endian mask whole _
  have loaded := (((done.load offset 32 (by omega)).load (offset + 32) 32 (by omega)).load
    (offset + 64) 32 (by omega)).load (offset + 96) 32 (by omega)
  have first := loaded.store (by omega) (vector offset (by omega) (by omega) aligned)
  have second := first.store (by omega) (vector (offset + 32) (by omega) (by omega) (by omega))
  have third := second.store (by omega) (vector (offset + 64) (by omega) (by omega) (by omega))
  exact third.store (by omega) (vector (offset + 96) (by omega) (by omega) (by omega))

/-- The offset a loop ends with, up to which the buffer is masked. -/
def Reached (mask : Mask) (src dst len : Nat) (before : Machine) (ended : Nat × Machine) : Prop :=
  ended.1 % 4 = 0 ∧ ended.1 ≤ len ∧ Done mask src dst len ended.1 before ended.2

private theorem xorAvx2By128_reached (endian : Endian) (apart : Apart src dst len)
    (reached : Reached mask src dst len before (offset, after)) :
    Reached mask src dst len before (xorAvx2By128 endian src dst len mask offset after) := by
  fun_induction xorAvx2By128 endian src dst len mask offset after with
  | case1 offset machine more ih =>
    obtain ⟨aligned, -, done⟩ := reached
    apply ih
    refine ⟨?_, ?_, xorFour_done endian apart aligned (by omega) done⟩
    · show (offset + 128) % 4 = 0
      omega
    · show offset + 128 ≤ len
      omega
  | case2 offset machine ended => exact reached

private theorem xorAvx2By32_reached (endian : Endian) (apart : Apart src dst len)
    (reached : Reached mask src dst len before (offset, after)) :
    Reached mask src dst len before (xorAvx2By32 endian src dst len mask offset after) := by
  fun_induction xorAvx2By32 endian src dst len mask offset after with
  | case1 offset machine more ih =>
    obtain ⟨aligned, -, done⟩ := reached
    apply ih
    refine ⟨?_, ?_, done.block apart 32 (by omega) _ fun block _ => xorVector_eq endian mask aligned block⟩
    · show (offset + 32) % 4 = 0
      omega
    · show offset + 32 ≤ len
      omega
  | case2 offset machine ended => exact reached

theorem xorAvx2_done (cpu : Cpu) (mask : Mask) (machine : Machine) (apart : Apart src dst len) :
    Done mask src dst len len machine (xorAvx2 cpu src dst len mask machine) := by
  have rounds := xorAvx2By32_reached cpu.endian apart (xorAvx2By128_reached cpu.endian apart
    ⟨rfl, Nat.zero_le len, Done.start mask src dst len machine⟩)
  unfold xorAvx2
  obtain ⟨-, inside, done⟩ := rounds
  have last := xorRange_done mask.get 0 len apart (fun index _ => by rw [Nat.zero_add])
    (by omega) inside (by simpa only [Nat.zero_add] using done)
  simpa only [Nat.zero_add, Nat.add_zero] using last

private theorem xorNeon_reached (endian : Endian) {ptr cursor : Nat} (whole offset : Nat)
    (vectors : whole % 16 = 0)
    (fits : whole ≤ len) (aligned : offset % 16 = 0) (inside : offset ≤ whole)
    (here : cursor = ptr + offset) (done : Done mask ptr ptr len offset before after) :
    (xorNeon endian mask (ptr + whole) cursor after).1 = ptr + whole ∧
      Done mask ptr ptr len whole before (xorNeon endian mask (ptr + whole) cursor after).2 := by
  fun_induction xorNeon endian mask (ptr + whole) cursor after generalizing offset with
  | case1 cursor machine more ih =>
    subst here
    have next := done.block (.inl rfl) 16 (by omega) (xorVector endian · mask)
      fun block _ => xorVector_eq endian mask (by omega) block
    exact ih (offset + 16) (by omega) (by omega) (by omega) next
  | case2 cursor machine ended =>
    obtain rfl : offset = whole := by omega
    exact ⟨here, done⟩

end Vectors

section Meaning

variable {mask : Mask} {src dst len : Nat} {before after : Machine}

private theorem applyMaskFallback_done (mask : Mask) (ptr len : Nat) (machine : Machine) :
    Done mask ptr ptr len len machine (applyMaskFallback ptr len mask machine) := by
  have pass := xorRange_done mask.get 0 len (.inl rfl) (fun index _ => by rw [Nat.zero_add])
    (by omega) (Nat.zero_le _) (Done.start mask ptr ptr len machine)
  simpa only [applyMaskFallback, Nat.zero_add, Nat.add_zero] using pass

theorem xorFast32_whole (cpu : Cpu) (mask : Mask) (machine : Machine) (apart : Apart src dst len) :
    Done mask src dst len len machine (xorFast32 cpu src dst len mask machine) := by
  have pass := xorFast32_done cpu 0 len apart rfl (by omega) (Done.start mask src dst len machine)
  simpa only [Nat.zero_add, Nat.add_zero] using pass

theorem applyMaskNeon_done (cpu : Cpu) (mask : Mask) (ptr len : Nat) (machine : Machine) :
    Done mask ptr ptr len len machine (applyMaskNeon cpu ptr len mask machine) := by
  unfold applyMaskNeon
  split
  · exact xorFast32_whole cpu mask machine (.inl rfl)
  · obtain ⟨stopped, vectors⟩ := xorNeon_reached cpu.endian (len - len % 16) 0 (by omega)
      (by omega) rfl (Nat.zero_le _) rfl (Done.start mask ptr ptr len machine)
    rw [Nat.add_zero] at stopped vectors
    simp only [stopped]
    split
    · have rest := xorFast32_done cpu (len - len % 16) (len % 16) (.inl rfl) (by omega)
        (by omega) vectors
      rw [show len - len % 16 + len % 16 = len by omega] at rest
      rw [applyMaskFast32, show ptr + len - (ptr + (len - len % 16)) = len % 16 by omega]
      exact rest
    · rename_i nothing
      have whole : len % 16 = 0 := by omega
      simp only [whole, Nat.sub_zero] at vectors ⊢
      exact vectors

theorem applyMask_done (cpu : Cpu) (mask : Mask) (ptr len : Nat) (machine : Machine) :
    Done mask ptr ptr len len machine (applyMask cpu ptr len mask machine) := by
  unfold applyMask
  split
  · exact applyMaskNeon_done cpu mask ptr len machine
  · split
    · exact xorFast32_whole cpu mask machine (.inl rfl)
    · split
      · exact xorAvx2_done cpu mask machine (.inl rfl)
      · exact applyMaskFast64_done cpu mask ptr len machine

theorem copyMask_done (cpu : Cpu) (mask : Mask) (machine : Machine) (apart : Apart src dst len) :
    ∃ after, copyMask cpu src len dst len mask machine = some after ∧
      Done mask src dst len len machine after := by
  unfold copyMask
  rw [if_pos rfl]
  split
  · exact ⟨_, rfl, xorAvx2_done cpu mask machine apart⟩
  · exact ⟨_, rfl, xorFast32_whole cpu mask machine apart⟩

/-- What a kernel leaves in memory, read back. -/
theorem Done.read_target (done : Done mask src dst len len before after) :
    read after.memory dst len = maskFrom mask 0 (read before.memory src len) := by
  apply List.ext_getElem?
  intro index
  rw [getElem?_maskFrom]
  by_cases inside : index < len
  · rw [getElem?_read inside, getElem?_read inside, done.masked index inside, Option.map_some,
      Nat.zero_add]
  · rw [List.getElem?_eq_none (by rw [length_read]; omega),
      List.getElem?_eq_none (by rw [length_read]; omega), Option.map_none]

/-- The dispatcher on memory does what the dispatcher on byte lists does. -/
theorem read_applyMask (cpu : Cpu) (mask : Mask) (ptr len : Nat) (machine : Machine) :
    read (applyMask cpu ptr len mask machine).memory ptr len =
      Yawc.applyMask cpu (read machine.memory ptr len) mask := by
  rw [(applyMask_done cpu mask ptr len machine).read_target, applyMask_eq]

theorem read_copyMask {cpu : Cpu} {machine : Machine} (apart : Apart src dst len)
    (copied : copyMask cpu src len dst len mask machine = some after) :
    read after.memory dst len = Yawc.copyMask cpu (read machine.memory src len) mask := by
  obtain ⟨result, made, done⟩ := copyMask_done cpu mask machine apart
  obtain rfl : result = after := Option.some.inj (made.symm.trans copied)
  rw [done.read_target, copyMask_eq]

/-- On any processor, for any split into words and either byte order, every
kernel combines byte `i` with byte `i mod 4` of the key, and reads and writes
nothing outside of its buffers. -/
theorem kernels_mask (cpu : Cpu) (mask : Mask) (machine : Machine) :
    (∀ ptr len,
      Done mask ptr ptr len len machine (applyMaskFallback ptr len mask machine) ∧
      Done mask ptr ptr len len machine (applyMaskFast32 cpu ptr len mask machine) ∧
      Done mask ptr ptr len len machine (applyMaskFast64 cpu ptr len mask machine) ∧
      Done mask ptr ptr len len machine (applyMaskAvx2 cpu ptr len mask machine) ∧
      Done mask ptr ptr len len machine (applyMaskNeon cpu ptr len mask machine) ∧
      Done mask ptr ptr len len machine (applyMask cpu ptr len mask machine)) ∧
    ∀ src dst len, Apart src dst len → ∃ after,
      copyMask cpu src len dst len mask machine = some after ∧
        Done mask src dst len len machine after := by
  refine ⟨?_, ?_⟩
  · intro ptr len
    refine ⟨applyMaskFallback_done mask ptr len machine, xorFast32_whole cpu mask machine (.inl rfl),
      applyMaskFast64_done cpu mask ptr len machine, xorAvx2_done cpu mask machine (.inl rfl),
      applyMaskNeon_done cpu mask ptr len machine, applyMask_done cpu mask ptr len machine⟩
  · intro src dst len apart
    exact copyMask_done cpu mask machine apart

/-- Five bytes copied over a gap: the last one meets the first byte of the key
again, and the byte behind it stays. -/
theorem kernels_mask_copy :
    Apart 0 8 5 ∧ ∃ after,
      copyMask .scalar 0 5 8 5 ⟨1, 2, 3, 4⟩ ⟨UInt8.ofNat, [], []⟩ = some after ∧
        after.memory 12 = 5 ∧ after.memory 13 = 13 := by
  have apart : Apart 0 8 5 := .inr (.inl (by decide))
  obtain ⟨after, copied, done⟩ :=
    (kernels_mask .scalar ⟨1, 2, 3, 4⟩ ⟨UInt8.ofNat, [], []⟩).2 0 8 5 apart
  exact ⟨apart, after, copied, done.masked 4 (by decide), done.kept 13 (.inr (by decide))⟩

end Meaning

end Yawc.Pointers
