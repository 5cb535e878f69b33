import Yawc.Compression.Pool

/-! Any number of connections on one pool, whose calls interleave in any way. -/

namespace Yawc.Pooling

variable {Compress Decompress Party : Type} {backend : Backend}

/-- The two directions of a connection, each with the call it is in. -/
structure Connection (Compress Decompress : Type) where
  compressor : Compressor Compress
  decompressor : Decompressor Decompress
  compressing : Option (Bytes × Bool)
  decompressing : Option (Bytes × Bool × Nat)

/-- A call begins when it takes its state and ends when it gives it back, and
other connections may do both in between. -/
inductive Action where
  | compress (input : Bytes) (flush : Bool)
  | compressed (rooms : List Room)
  | decompress (input : Bytes) (streamEnd : Bool) (maxOutputSize : Nat)
  | decompressed (rooms : List Room)

namespace Connection

def new (config : CompressionConfig) (pooled : Bool) : Connection Compress Decompress where
  compressor := Pooling.compressor config pooled
  decompressor := Pooling.decompressor config pooled
  compressing := none
  decompressing := none

/-- The result of a call that ends. A direction is borrowed for one call at a
time. -/
def step (flate : Flate2 Compress Decompress) (pool : DeflatePool backend Compress Decompress)
    (self : Connection Compress Decompress) : Action →
    Option (Option (Result Bytes) × Connection Compress Decompress ×
      DeflatePool backend Compress Decompress)
  | .compress input flush =>
    if self.compressing.isSome then none
    else
      let (compressor, pool) := self.compressor.start flate.compress pool
      some (none, { self with compressor, compressing := some (input, flush) }, pool)
  | .compressed rooms =>
    match self.compressing with
    | none => none
    | some (input, flush) =>
      (self.compressor.finish flate.compress pool rooms input flush).map
        fun (result, compressor, pool) =>
          (some result, { self with compressor, compressing := none }, pool)
  | .decompress input streamEnd maxOutputSize =>
    if self.decompressing.isSome then none
    else
      let (decompressor, pool) := self.decompressor.start flate.decompress pool
      some (none,
        { self with decompressor, decompressing := some (input, streamEnd, maxOutputSize) }, pool)
  | .decompressed rooms =>
    match self.decompressing with
    | none => none
    | some (input, streamEnd, maxOutputSize) =>
      (self.decompressor.finish flate.decompress pool rooms input streamEnd maxOutputSize).map
        fun (result, decompressor, pool) =>
          (some result, { self with decompressor, decompressing := none }, pool)

end Connection

/-- The connections and their pool. -/
structure System (Party : Type) (backend : Backend) (Compress Decompress : Type) where
  pool : DeflatePool backend Compress Decompress
  connections : Party → Connection Compress Decompress

namespace System

/-- Connections with these settings, with or without the pool. -/
def new (configs : Party → CompressionConfig) (capacity : Nat) (pooled : Bool) :
    System Party backend Compress Decompress where
  pool := .new capacity
  connections := fun party => .new (configs party) pooled

def step [DecidableEq Party] (flate : Flate2 Compress Decompress) :
    Trace.Step (System Party backend Compress Decompress) (Party × Action) (Option (Result Bytes)) :=
  fun self (party, action) =>
    ((self.connections party).step flate self.pool action).map fun (output, connection, pool) =>
      (output, { pool, connections := Function.update self.connections party connection })

end System

/-- A connection that owns its state, built before the first call. -/
structure Owner (Compress Decompress : Type) where
  deflate : Deflate Compress
  inflate : Inflate Decompress
  compressing : Option (Bytes × Bool)
  decompressing : Option (Bytes × Bool × Nat)

namespace Owner

def new (flate : Flate2 Compress Decompress) (backend : Backend) (config : CompressionConfig) :
    Owner Compress Decompress where
  deflate := .build flate.compress backend config.level config.outgoing.windowBits
  inflate := .build flate.decompress backend config.incoming.windowBits
  compressing := none
  decompressing := none

def step (flate : Flate2 Compress Decompress) (config : CompressionConfig)
    (self : Owner Compress Decompress) : Action →
    Option (Option (Result Bytes) × Owner Compress Decompress)
  | .compress input flush =>
    if self.compressing.isSome then none
    else some (none, { self with compressing := some (input, flush) })
  | .compressed rooms =>
    match self.compressing with
    | none => none
    | some (input, flush) =>
      (self.deflate.serve flate.compress config.outgoing rooms input flush).map
        fun (result, deflate) => (some result, { self with deflate, compressing := none })
  | .decompress input streamEnd maxOutputSize =>
    if self.decompressing.isSome then none
    else some (none, { self with decompressing := some (input, streamEnd, maxOutputSize) })
  | .decompressed rooms =>
    match self.decompressing with
    | none => none
    | some (input, streamEnd, maxOutputSize) =>
      (self.inflate.serve flate.decompress config.incoming rooms input streamEnd maxOutputSize).map
        fun (result, inflate) => (some result, { self with inflate, decompressing := none })

/-- Owners do not touch each other's state. -/
def steps [DecidableEq Party] (flate : Flate2 Compress Decompress)
    (configs : Party → CompressionConfig) :
    Trace.Step (Party → Owner Compress Decompress) (Party × Action) (Option (Result Bytes)) :=
  fun owners (party, action) =>
    ((owners party).step flate (configs party) action).map fun (output, owner) =>
      (output, Function.update owners party owner)

end Owner

namespace Connection

/-- Both directions have the settings of the connection, and a call in progress
has its state. -/
structure Sound (flate : Flate2 Compress Decompress) (backend : Backend)
    (config : CompressionConfig) (connection : Connection Compress Decompress) : Prop where
  compressor : connection.compressor.Owns flate.compress backend config.level config.outgoing
  decompressor : connection.decompressor.Owns flate.decompress backend config.incoming
  compressing : connection.compressing.isSome → connection.compressor.deflate.isSome
  decompressing : connection.decompressing.isSome → connection.decompressor.inflate.isSome

end Connection

/-- Both windows are ones deflate accepts. -/
structure Settled (config : CompressionConfig) : Prop where
  outgoing : Windowed config.outgoing.windowBits
  incoming : Windowed config.incoming.windowBits

section Refinement

variable {flate : Flate2 Compress Decompress} {pool : DeflatePool backend Compress Decompress}
variable {config : CompressionConfig}

namespace Connection

variable {self : Connection Compress Decompress}

end Connection

namespace System

variable {configs : Party → CompressionConfig}

end System

end Refinement

/-- flate2 on empty messages: a new stream is flushed to an empty stored block,
and inflating one gives nothing. -/
def emptyBlocks : Flate2 (UInt32 × UInt8 × Bool) (UInt8 × Nat) where
  compress :=
    { new := fun level => (level, 15, false)
      newWithWindowBits := fun level window => (level, window, false)
      call := fun (level, window, synced) input _ _ =>
        if synced then ⟨.ok .bufError, 0, [], (level, window, true)⟩
        else ⟨.ok .ok, input.length, 0x0 :: syncMarker, (level, window, true)⟩
      reset := fun (level, window, _) => (level, window, false) }
  decompress :=
    { new := fun _ => (15, 0)
      newWithWindowBits := fun _ window => (window, 0)
      call := fun (window, taken) input _ _ =>
        ⟨.ok (if input.isEmpty then .bufError else .ok), input.length, [],
          (window, taken + input.length)⟩
      reset := fun (window, _) => (window, 0) }

/-- Two connections of different levels that keep no context. -/
def twoLevels (first : Bool) : CompressionConfig :=
  ⟨if first then 6 else 1, ⟨true, some 9⟩, ⟨true, none⟩⟩

/-- The second connection compresses while the first does, then takes and drops
the state the first gave back. -/
def crossedCalls : List (Bool × Action) :=
  [(true, .compress [] true), (false, .compress [] true), (true, .compressed [⟨1024, by decide⟩]),
    (false, .compressed [⟨1024, by decide⟩]), (false, .compress [] true),
    (false, .compressed [⟨1024, by decide⟩]), (true, .decompress [0x0] true 16),
    (true, .decompressed (.replicate 4 ⟨1024, by decide⟩))]

end Yawc.Pooling
