import Yawc.Compression.Wrappers

/-! Deflate without compression: a compressor that writes every input as a stored
block, and a decompressor that reads such blocks. -/

namespace Yawc.Pooling

/-- Where a reader of stored blocks stands: in the header of a block, or in front of
what is left of its data. -/
structure Scan where
  header : Bytes
  left : Nat
  deriving DecidableEq

namespace Scan

def start : Scan := ⟨[], 0⟩

/-- A header is the type of the block, the size of the data and its complement. -/
def step (self : Scan) (byte : UInt8) : Bytes × Scan :=
  if 0 < self.left then ([byte], { self with left := self.left - 1 })
  else
    match self.header with
    | [_, low, high, _] => ([], ⟨[], low.toNat + 256 * high.toNat⟩)
    | header => ([], ⟨header ++ [byte], 0⟩)

def scan : Scan → Bytes → Bytes × Scan
  | self, [] => ([], self)
  | self, byte :: bytes =>
    let (output, next) := self.step byte
    let (more, last) := next.scan bytes
    (output ++ more, last)

theorem scan_append (self : Scan) (front back : Bytes) :
    self.scan (front ++ back) =
      ((self.scan front).1 ++ ((self.scan front).2.scan back).1,
        ((self.scan front).2.scan back).2) := by
  induction front generalizing self with
  | nil => rfl
  | cons byte front ih => simp only [List.cons_append, scan, ih, List.append_assoc]

private theorem scan_data (data : Bytes) : (Scan.mk [] data.length).scan data = (data, start) := by
  induction data with
  | nil => rfl
  | cons byte data ih => simp [scan, step, ih]

end Scan

/-- The last block a compressor has to end is never the final one. -/
def storedBlock (data : Bytes) : Bytes :=
  let low := UInt8.ofNat (data.length % 256)
  let high := UInt8.ofNat (data.length / 256)
  [0x0, low, high, ~~~low, ~~~high] ++ data

theorem scan_storedBlock {data : Bytes} (short : data.length < 65536) :
    Scan.start.scan (storedBlock data) = (data, .start) := by
  have size : (UInt8.ofNat (data.length % 256)).toNat +
      256 * (UInt8.ofNat (data.length / 256)).toNat = data.length := by
    simp only [UInt8.toNat_ofNat']
    omega
  simp only [storedBlock, Scan.start, List.cons_append, List.nil_append, Scan.scan, Scan.step,
    Nat.lt_irrefl, ↓reduceIte, size, Scan.scan_data]

theorem scan_emptyBlock : Scan.start.scan emptyBlock = ([], .start) := by
  decide

/-- A compressor with the blocks it has not written yet, or the rest of a sync flush. -/
structure Storing where
  level : UInt32
  window : UInt8
  pending : Bytes
  synced : Bool
  deriving DecidableEq

namespace Storing

def new (level : UInt32) (window : UInt8) : Storing := ⟨level, window, [], false⟩

/-- What a sync flush writes. It ends with an empty block, and one that has begun is
only finished. -/
def queue (self : Storing) : Bytes := self.pending ++ if self.synced then [] else emptyBlock

/-- A block has at most 65535 bytes of data. -/
def take (self : Storing) (input : Bytes) : Storing :=
  if input = [] then self
  else { self with pending := self.pending ++ storedBlock (input.take 65535), synced := false }

def partialFlush (self : Storing) (room : Nat) : Bytes × Storing :=
  (self.pending.take room, { self with pending := self.pending.drop room })

def syncFlush (self : Storing) (room : Nat) : Bytes × Storing :=
  (self.queue.take room,
    { self with pending := self.queue.drop room, synced := room < self.queue.length })

def call (self : Storing) (input : Bytes) (room : Nat) (flush : FlushCompress) : Called Storing :=
  let taken := self.take input
  let (status, written, next) := match flush with
    | .partialFlush => (Status.ok, taken.partialFlush room)
    | .syncFlush => (if taken.queue = [] then .bufError else .ok, taken.syncFlush room)
  ⟨.ok status, min 65535 input.length, written, next⟩

end Storing

def storing : Codec UInt32 FlushCompress Storing where
  new level := .new level 15
  newWithWindowBits := .new
  call := Storing.call
  reset self := .new self.level self.window

theorem storing_lawful : storing.Lawful where
  default_window _ := rfl
  reset_built := by
    intro level window object _ _ used
    have taken (self : Storing) (input : Bytes) :
        (self.take input).level = self.level ∧ (self.take input).window = self.window := by
      unfold Storing.take
      split
      · exact ⟨rfl, rfl⟩
      · exact ⟨rfl, rfl⟩
    have same : object.level = level ∧ object.window = window := by
      induction used with
      | built => exact ⟨rfl, rfl⟩
      | @called object _ input _ flush ih =>
        obtain ⟨rfl, rfl⟩ := ih
        cases flush with
        | partialFlush => exact taken object input
        | syncFlush => exact taken object input
      | reset _ ih => exact ih
    obtain ⟨rfl, rfl⟩ := same
    rfl

/-- A decompressor with what it has read but not written yet. -/
structure Reading where
  window : UInt8
  scan : Scan
  pending : Bytes
  deriving DecidableEq

def reading : Codec Unit FlushDecompress Reading where
  new _ := ⟨15, .start, []⟩
  newWithWindowBits _ window := ⟨window, .start, []⟩
  call self input room _ :=
    let (output, scan) := self.scan.scan input
    let pending := self.pending ++ output
    ⟨.ok (if input = [] ∧ pending = [] then .bufError else .ok), input.length, pending.take room,
      { self with scan, pending := pending.drop room }⟩
  reset self := ⟨self.window, .start, []⟩

theorem reading_lawful : reading.Lawful where
  default_window _ := rfl
  reset_built := by
    intro settings window object _ _ used
    have same : object.window = window := by
      induction used with
      | built => rfl
      | called _ _ _ _ ih => exact ih
      | reset _ ih => exact ih
    subst same
    rfl

end Yawc.Pooling
