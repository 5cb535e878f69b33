import Yawc.Compression.Wrappers
import Yawc.Library.Lending
import Yawc.Library.Trace

/-! Deflate state shared between connections. -/

namespace Yawc.Pooling

open Lending

variable {Compress Decompress : Type} {backend : Backend}

/-- `WINDOW_SIZES`: the queues of each kind. -/
def windowSizes : Backend → Nat
  | .zlib => 7
  | .miniz => 1

theorem clampWindow_bounds (bits : UInt8) : 9 ≤ clampWindow bits ∧ clampWindow bits ≤ 15 := by
  unfold clampWindow
  grind

private theorem window_slot {bits : UInt8} (low : 9 ≤ bits) (high : bits ≤ 15) :
    (bits - 9).toNat < 7 := by
  rw [UInt8.toNat_sub_of_le _ _ low]
  have := UInt8.le_iff_toNat_le.mp high
  simp only [UInt8.reduceToNat] at this ⊢
  omega

/-- The queue of a window size. No window means the default of 15 bits. -/
def slot : (backend : Backend) → Option UInt8 → Fin (windowSizes backend)
  | .zlib, none => ⟨(15 - 9 : UInt8).toNat, by decide⟩
  | .zlib, some bits =>
    ⟨(clampWindow bits - 9).toNat,
      window_slot (clampWindow_bounds bits).1 (clampWindow_bounds bits).2⟩
  | .miniz, _ => ⟨0, by decide⟩

/-- The idle state of a pool that keeps any. -/
structure Shared (backend : Backend) (Compress Decompress : Type) where
  deflate : Shelf (Fin (windowSizes backend)) (Deflate Compress)
  inflate : Shelf (Fin (windowSizes backend)) (Inflate Decompress)

structure DeflatePool (backend : Backend) (Compress Decompress : Type) where
  shared : Option (Shared backend Compress Decompress)

namespace DeflatePool

def new (capacity : Nat) : DeflatePool backend Compress Decompress where
  shared :=
    if 0 < capacity then
      some { deflate := fun _ => .new capacity, inflate := fun _ => .new capacity }
    else none

/-- A compressor of another level is dropped. -/
def takeDeflate (self : DeflatePool backend Compress Decompress) (level : UInt32)
    (windowBits : Option UInt8) :
    Option (Deflate Compress) × DeflatePool backend Compress Decompress :=
  match self.shared with
  | none => (none, self)
  | some shared =>
    let (popped, deflate) := shared.deflate.take (slot backend windowBits)
    (popped.filter fun popped => popped.level = level, { shared := some { shared with deflate } })

def putDeflate (self : DeflatePool backend Compress Decompress) (windowBits : Option UInt8)
    (deflate : Deflate Compress) : DeflatePool backend Compress Decompress where
  shared := self.shared.map fun shared =>
    { shared with deflate := shared.deflate.put (slot backend windowBits) deflate }

def takeInflate (self : DeflatePool backend Compress Decompress) (windowBits : Option UInt8) :
    Option (Inflate Decompress) × DeflatePool backend Compress Decompress :=
  match self.shared with
  | none => (none, self)
  | some shared =>
    let (popped, inflate) := shared.inflate.take (slot backend windowBits)
    (popped, { shared := some { shared with inflate } })

def putInflate (self : DeflatePool backend Compress Decompress) (windowBits : Option UInt8)
    (inflate : Inflate Decompress) : DeflatePool backend Compress Decompress where
  shared := self.shared.map fun shared =>
    { shared with inflate := shared.inflate.put (slot backend windowBits) inflate }

end DeflatePool

/-- The state a compressor without idle state builds. -/
def Deflate.build (flate : Codec UInt32 FlushCompress Compress) (backend : Backend)
    (level : UInt32) : Option UInt8 → Deflate Compress
  | some windowBits =>
    match backend with
    | .zlib => .newWithWindowBits flate level windowBits
    | .miniz => .new flate level
  | none => .new flate level

def Inflate.build (flate : Codec Unit FlushDecompress Decompress) (backend : Backend) :
    Option UInt8 → Inflate Decompress
  | some windowBits =>
    match backend with
    | .zlib => .newWithWindowBits flate windowBits
    | .miniz => .default flate
  | none => .default flate

/-- `pooled` says whether the compressor holds a clone of the pool. -/
structure Compressor (Compress : Type) where
  deflate : Option (Deflate Compress)
  level : UInt32
  config : HalfConfig
  pooled : Bool

structure Decompressor (Decompress : Type) where
  inflate : Option (Inflate Decompress)
  config : HalfConfig
  pooled : Bool

/-- `CompressionConfig::compressor`: only a direction without context takeover
uses the pool. -/
def compressor (config : CompressionConfig) (pooled : Bool) : Compressor Compress where
  deflate := none
  level := config.level
  config := config.outgoing
  pooled := pooled && config.outgoing.noContextTakeover

def decompressor (config : CompressionConfig) (pooled : Bool) : Decompressor Decompress where
  inflate := none
  config := config.incoming
  pooled := pooled && config.incoming.noContextTakeover

namespace Compressor

variable (flate : Codec UInt32 FlushCompress Compress)

/-- The start of `Compressor::compress`: state is taken from the pool or built
if the compressor has none. -/
def start (self : Compressor Compress) (pool : DeflatePool backend Compress Decompress) :
    Compressor Compress × DeflatePool backend Compress Decompress :=
  match self.deflate with
  | some _ => (self, pool)
  | none =>
    let (pooled, pool) :=
      if self.pooled then pool.takeDeflate self.level self.config.windowBits else (none, pool)
    let built := Deflate.build flate backend self.level self.config.windowBits
    ({ self with deflate := some (pooled.getD built) }, pool)

/-- The rest of `Compressor::compress`. State that failed is not given to the
pool. -/
def finish (self : Compressor Compress) (pool : DeflatePool backend Compress Decompress)
    (rooms : List Room) (input : Bytes) (flush : Bool) :
    Option (Result Bytes × Compressor Compress × DeflatePool backend Compress Decompress) :=
  match self.deflate with
  | none => none
  | some deflate =>
    match deflate.compress flate rooms input flush with
    | none => none
    | some (result, deflate) =>
      if flush && self.config.noContextTakeover then
        let deflate := deflate.reset flate
        if self.pooled && result.isOk then
          some (result, { self with deflate := none },
            pool.putDeflate self.config.windowBits deflate)
        else some (result, { self with deflate := some deflate }, pool)
      else some (result, { self with deflate := some deflate }, pool)

end Compressor

namespace Decompressor

variable (flate : Codec Unit FlushDecompress Decompress)

def start (self : Decompressor Decompress) (pool : DeflatePool backend Compress Decompress) :
    Decompressor Decompress × DeflatePool backend Compress Decompress :=
  match self.inflate with
  | some _ => (self, pool)
  | none =>
    let (pooled, pool) :=
      if self.pooled then pool.takeInflate self.config.windowBits else (none, pool)
    let built := Inflate.build flate backend self.config.windowBits
    ({ self with inflate := some (pooled.getD built) }, pool)

/-- As for the compressor, but a failed call also loses its output. -/
def finish (self : Decompressor Decompress) (pool : DeflatePool backend Compress Decompress)
    (rooms : List Room) (input : Bytes) (streamEnd : Bool) (maxOutputSize : Nat) :
    Option (Result Bytes × Decompressor Decompress × DeflatePool backend Compress Decompress) :=
  match self.inflate with
  | none => none
  | some inflate =>
    match inflate.decompress flate rooms input streamEnd maxOutputSize with
    | none => none
    | some (result, inflate) =>
      let inflate := if result.isOk then inflate else { inflate with output := [] }
      if streamEnd && self.config.noContextTakeover then
        let inflate := inflate.reset flate
        if self.pooled && result.isOk then
          some (result, { self with inflate := none },
            pool.putInflate self.config.windowBits inflate)
        else some (result, { self with inflate := some inflate }, pool)
      else some (result, { self with inflate := some inflate }, pool)

end Decompressor

section Windows

/-- A window deflate accepts, or none. -/
def Windowed (windowBits : Option UInt8) : Prop :=
  ∀ bits, windowBits = some bits → 9 ≤ bits ∧ bits ≤ 15

/-- The window state is built with. -/
def builtWindow : Backend → Option UInt8 → UInt8
  | .zlib, windowBits => windowBits.getD 15
  | .miniz, _ => 15

theorem builtWindow_bounds (backend : Backend) {windowBits : Option UInt8} (windowed : Windowed windowBits) :
    9 ≤ builtWindow backend windowBits ∧ builtWindow backend windowBits ≤ 15 := by
  cases backend with
  | miniz => simp [builtWindow]
  | zlib =>
    cases windowBits with
    | none => exact ⟨by decide, by decide⟩
    | some bits => exact windowed bits rfl

theorem Deflate.build_eq {flate : Codec UInt32 FlushCompress Compress} (lawful : flate.Lawful)
    (level : UInt32) (windowBits : Option UInt8) :
    Deflate.build flate backend level windowBits =
      .newWithWindowBits flate level (builtWindow backend windowBits) := by
  cases backend <;> cases windowBits <;>
    simp [build, builtWindow, new, newWithWindowBits, lawful.default_window]

theorem Inflate.build_eq {flate : Codec Unit FlushDecompress Decompress} (lawful : flate.Lawful)
    (windowBits : Option UInt8) :
    Inflate.build flate backend windowBits =
      .newWithWindowBits flate (builtWindow backend windowBits) := by
  cases backend <;> cases windowBits <;>
    simp [build, builtWindow, default, newWithWindowBits, lawful.default_window]

end Windows

/-- What a slot may hold: the state that whoever takes it would build, with the
level it is labelled with. -/
def Deflate.Fits (flate : Codec UInt32 FlushCompress Compress) (backend : Backend)
    (place : Fin (windowSizes backend)) (deflate : Deflate Compress) : Prop :=
  ∀ windowBits, Windowed windowBits → slot backend windowBits = place →
    deflate = .build flate backend deflate.level windowBits

def Inflate.Fits (flate : Codec Unit FlushDecompress Decompress) (backend : Backend)
    (place : Fin (windowSizes backend)) (inflate : Inflate Decompress) : Prop :=
  ∀ windowBits, Windowed windowBits → slot backend windowBits = place →
    inflate = .build flate backend windowBits

/-- All idle state is as good as new. -/
structure DeflatePool.Fresh (flate : Flate2 Compress Decompress)
    (pool : DeflatePool backend Compress Decompress) : Prop where
  deflate : ∀ shared, pool.shared = some shared →
    Shelf.Sorted (Deflate.Fits flate.compress backend) shared.deflate
  inflate : ∀ shared, pool.shared = some shared →
    Shelf.Sorted (Inflate.Fits flate.decompress backend) shared.inflate

section Fresh

variable {flate : Flate2 Compress Decompress} {pool : DeflatePool backend Compress Decompress}
variable {windowBits : Option UInt8}

namespace DeflatePool

theorem Fresh.new (capacity : Nat) :
    Fresh flate (.new capacity : DeflatePool backend Compress Decompress) := by
  have kept (shared : Shared backend Compress Decompress)
      (keeps : (DeflatePool.new capacity).shared = some shared) :
      shared = { deflate := fun _ => .new capacity, inflate := fun _ => .new capacity } := by
    simp only [DeflatePool.new] at keeps
    split at keeps
    · exact (Option.some.inj keeps).symm
    · simp at keeps
  constructor
  · intro shared keeps
    rw [kept shared keeps]
    exact .new capacity
  · intro shared keeps
    rw [kept shared keeps]
    exact .new capacity

/-- What a compressor takes is what it would have built. -/
theorem Fresh.takeDeflate (fresh : pool.Fresh flate) (windowed : Windowed windowBits)
    (level : UInt32) :
    (∀ deflate, (pool.takeDeflate level windowBits).1 = some deflate →
      deflate = .build flate.compress backend level windowBits) ∧
    (pool.takeDeflate level windowBits).2.Fresh flate := by
  unfold DeflatePool.takeDeflate
  split
  · exact ⟨by simp, fresh⟩
  · rename_i shared keeps
    have sorted := fresh.deflate shared keeps
    refine ⟨?_, ⟨?_, ?_⟩⟩
    · intro deflate taken
      obtain ⟨popped, labelled⟩ := Option.filter_eq_some_iff.mp taken
      rw [← of_decide_eq_true labelled]
      exact sorted.taken popped windowBits windowed rfl
    · intro after keeps'
      rw [← Option.some.inj keeps']
      exact sorted.take
    · intro after keeps'
      rw [← Option.some.inj keeps']
      exact fresh.inflate shared keeps

theorem Fresh.takeInflate (fresh : pool.Fresh flate) (windowed : Windowed windowBits) :
    (∀ inflate, (pool.takeInflate windowBits).1 = some inflate →
      inflate = .build flate.decompress backend windowBits) ∧
    (pool.takeInflate windowBits).2.Fresh flate := by
  unfold DeflatePool.takeInflate
  split
  · exact ⟨by simp, fresh⟩
  · rename_i shared keeps
    have sorted := fresh.inflate shared keeps
    refine ⟨?_, ⟨?_, ?_⟩⟩
    · intro inflate taken
      exact sorted.taken taken windowBits windowed rfl
    · intro after keeps'
      rw [← Option.some.inj keeps']
      exact fresh.deflate shared keeps
    · intro after keeps'
      rw [← Option.some.inj keeps']
      exact sorted.take

private theorem Fresh.putDeflate (fresh : pool.Fresh flate) {deflate : Deflate Compress}
    (fits : deflate.Fits flate.compress backend (slot backend windowBits)) :
    (pool.putDeflate windowBits deflate).Fresh flate := by
  constructor
  · intro after keeps
    obtain ⟨shared, kept, rfl⟩ := Option.map_eq_some_iff.mp keeps
    exact (fresh.deflate shared kept).put fits
  · intro after keeps
    obtain ⟨shared, kept, rfl⟩ := Option.map_eq_some_iff.mp keeps
    exact fresh.inflate shared kept

private theorem Fresh.putInflate (fresh : pool.Fresh flate) {inflate : Inflate Decompress}
    (fits : inflate.Fits flate.decompress backend (slot backend windowBits)) :
    (pool.putInflate windowBits inflate).Fresh flate := by
  constructor
  · intro after keeps
    obtain ⟨shared, kept, rfl⟩ := Option.map_eq_some_iff.mp keeps
    exact fresh.deflate shared kept
  · intro after keeps
    obtain ⟨shared, kept, rfl⟩ := Option.map_eq_some_iff.mp keeps
    exact (fresh.inflate shared kept).put fits

end DeflatePool

end Fresh

/-- A call on state that is not shared, with the reset behind the end of a
message. -/
def Deflate.serve (flate : Codec UInt32 FlushCompress Compress) (config : HalfConfig)
    (rooms : List Room) (self : Deflate Compress) (input : Bytes) (flush : Bool) :
    Option (Result Bytes × Deflate Compress) :=
  (self.compress flate rooms input flush).map fun (result, next) =>
    (result, if flush && config.noContextTakeover then next.reset flate else next)

def Inflate.serve (flate : Codec Unit FlushDecompress Decompress) (config : HalfConfig)
    (rooms : List Room) (self : Inflate Decompress) (input : Bytes) (streamEnd : Bool)
    (maxOutputSize : Nat) : Option (Result Bytes × Inflate Decompress) :=
  (self.decompress flate rooms input streamEnd maxOutputSize).map fun (result, next) =>
    let next := if result.isOk then next else { next with output := [] }
    (result, if streamEnd && config.noContextTakeover then next.reset flate else next)

/-- The state the next call works on. -/
def Compressor.current (flate : Codec UInt32 FlushCompress Compress) (backend : Backend)
    (self : Compressor Compress) : Deflate Compress :=
  self.deflate.getD (.build flate backend self.level self.config.windowBits)

def Decompressor.current (flate : Codec Unit FlushDecompress Decompress) (backend : Backend)
    (self : Decompressor Decompress) : Inflate Decompress :=
  self.inflate.getD (.build flate backend self.config.windowBits)

/-- The compressor has these settings, and its state was built with them. -/
structure Compressor.Owns (flate : Codec UInt32 FlushCompress Compress) (backend : Backend)
    (level : UInt32) (config : HalfConfig) (compressor : Compressor Compress) : Prop where
  labelled : compressor.level = level
  configured : compressor.config = config
  kept : (compressor.current flate backend).Kept flate level (builtWindow backend config.windowBits)

structure Decompressor.Owns (flate : Codec Unit FlushDecompress Decompress) (backend : Backend)
    (config : HalfConfig) (decompressor : Decompressor Decompress) : Prop where
  configured : decompressor.config = config
  used : flate.Used () (builtWindow backend config.windowBits)
    (decompressor.current flate backend).decompressor

section Calls

variable {flate : Flate2 Compress Decompress} {pool : DeflatePool backend Compress Decompress}
variable {level : UInt32} {config : HalfConfig} {rooms : List Room} {input : Bytes}
variable {result : Result Bytes}

namespace Compressor

variable {self : Compressor Compress} {flush : Bool}

/-- The reset behind a message that succeeded leaves state as it is built. -/
theorem reset_built (lawful : flate.Lawful) (windowed : Windowed config.windowBits)
    {after : Deflate Compress}
    (leaves : Deflate.Leaves flate.compress level (builtWindow backend config.windowBits) result after)
    (succeeded : result.isOk) :
    after.reset flate.compress = .build flate.compress backend level config.windowBits := by
  obtain ⟨low, high⟩ := builtWindow_bounds backend windowed
  rw [Deflate.build_eq lawful.compress]
  simp only [Deflate.reset, Deflate.newWithWindowBits, leaves.emptied succeeded,
    leaves.kept.labelled, lawful.compress.reset_built low high leaves.kept.used]

end Compressor

namespace Decompressor

variable {self : Decompressor Decompress} {streamEnd : Bool} {maxOutputSize : Nat}

theorem reset_built (lawful : flate.Lawful) (windowed : Windowed config.windowBits)
    {after : Inflate Decompress} (empty : after.output = [])
    (used : flate.decompress.Used () (builtWindow backend config.windowBits) after.decompressor) :
    after.reset flate.decompress = .build flate.decompress backend config.windowBits := by
  obtain ⟨low, high⟩ := builtWindow_bounds backend windowed
  rw [Inflate.build_eq lawful.decompress]
  simp only [Inflate.reset, Inflate.newWithWindowBits, empty,
    lawful.decompress.reset_built low high used]

end Decompressor

end Calls

end Yawc.Pooling
