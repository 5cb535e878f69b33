import Yawc.Error

/-! The wrapper around flate2's compressor, and the cut of its output at the
sync-flush marker. -/

namespace Yawc

/-- The suffix a sync flush ends with, which is not sent. -/
def syncMarker : Bytes := [0x0, 0x0, 0xff, 0xff]

/-- What is assumed of flate2's compressor behind its output queue. Feeding
takes part of the input and queues some bytes; the first sync flush after that
queues one tail, and a sync flush right after another queues nothing. -/
structure Engine (Core : Type) where
  fresh : Core
  feed : Core → Bytes → Nat → Nat × Bytes × Core
  sync : Core → Option (Bytes × Core)
  feed_takes : ∀ core input room, (feed core input room).1 ≤ input.length
  feed_sync : ∀ core input room, (sync (feed core input room).2.2).isSome
  sync_marker : ∀ {core tail next}, sync core = some (tail, next) → syncMarker <:+ tail
  sync_once : ∀ {core tail next}, sync core = some (tail, next) → sync next = none

inductive Status where
  | ok
  | bufError
  | streamEnd
  deriving DecidableEq

inductive FlushCompress where
  | partialFlush
  | syncFlush
  deriving DecidableEq

/-- The spare capacities `chunk` finds in the output buffer, one for each call.
It reserves until there are at least 1024 bytes. -/
structure Chunks where
  room : Nat → Nat
  enough : ∀ call, 1024 ≤ room call

/-- `flate2::Compress`: output that did not fit stays pending. All the bytes
ever queued are kept as `produced`. -/
structure Compress (Core : Type) where
  core : Core
  pending : Bytes
  produced : Bytes

/-- The buffer of finished output and the compressor, with the number of
chunks asked for so far. -/
structure Deflate (Core : Type) where
  output : Bytes
  compressor : Compress Core
  chunks : Nat

variable {Core : Type}

namespace Compress

def new (engine : Engine Core) : Compress Core :=
  { core := engine.fresh, pending := [], produced := [] }

/-- A reset starts a new stream and forgets what was pending. -/
def reset (engine : Engine Core) (self : Compress Core) : Compress Core :=
  { self with core := engine.fresh, pending := [] }

/-- One call: the status, the input bytes it took (the growth of `total_in`)
and the bytes it wrote to the chunk (the growth of `total_out`). -/
def compress (engine : Engine Core) (self : Compress Core) (input : Bytes) (room : Nat)
    (flush : FlushCompress) : Status × Nat × Bytes × Compress Core :=
  let (consumed, fed, core) :=
    if input.isEmpty then (0, [], self.core) else engine.feed self.core input room
  let (tail, core) := match flush, engine.sync core with
    | .syncFlush, some (tail, next) => (tail, next)
    | _, _ => ([], core)
  let queue := self.pending ++ fed ++ tail
  let written := queue.take room
  let status := if consumed = 0 ∧ written.isEmpty then .bufError else .ok
  (status, consumed, written,
    { core, pending := queue.drop room, produced := self.produced ++ fed ++ tail })

end Compress

namespace Deflate

def new (engine : Engine Core) : Deflate Core :=
  { output := [], compressor := .new engine, chunks := 0 }

def reset (engine : Engine Core) (self : Deflate Core) : Deflate Core :=
  { self with compressor := self.compressor.reset engine }

def corruptStream : WebSocketError := .ioError "corrupt deflate stream"

/-- `take_output`: the buffer is left empty whether it is split or taken whole. -/
def takeOutput (self : Deflate Core) : Bytes × Deflate Core :=
  (self.output, { self with output := [] })

def write (engine : Engine Core) (chunks : Chunks) (self : Deflate Core) (input : Bytes) :
    Result Nat × Deflate Core :=
  let (status, consumed, written, compressor) :=
    self.compressor.compress engine input (chunks.room self.chunks) .partialFlush
  let self := { output := self.output ++ written, compressor, chunks := self.chunks + 1 }
  match status with
  | .ok => (.ok consumed, self)
  | .streamEnd | .bufError => (.error corruptStream, self)

/-- The write loop, or `none` if `fuel` calls do not take the whole input. -/
def writeAll (engine : Engine Core) (chunks : Chunks) :
    Nat → Deflate Core → Bytes → Option (Result Unit × Deflate Core)
  | 0, _, _ => none
  | fuel + 1, self, input =>
    if input.isEmpty then some (.ok (), self)
    else
      match self.write engine chunks input with
      | (.error error, self) => some (.error error, self)
      | (.ok consumed, self) => writeAll engine chunks fuel self (input.drop consumed)

/-- One round of the flush loop, and whether it was the last. -/
def flushRound (engine : Engine Core) (chunks : Chunks) (self : Deflate Core) :
    Bool × Deflate Core :=
  let (status, _, written, compressor) :=
    self.compressor.compress engine [] (chunks.room self.chunks) .syncFlush
  let output := self.output ++ written
  if written.isEmpty ∧ status = .bufError then
    (true, { output := output ++ [0x0], compressor, chunks := self.chunks + 1 })
  else if syncMarker.isSuffixOf output then
    (true, { output := output.take (output.length - 4), compressor, chunks := self.chunks + 1 })
  else (false, { output, compressor, chunks := self.chunks + 1 })

def flushLoop (engine : Engine Core) (chunks : Chunks) :
    Nat → Deflate Core → Option (Deflate Core)
  | 0, _ => none
  | fuel + 1, self =>
    match self.flushRound engine chunks with
    | (true, self) => some self
    | (false, self) => flushLoop engine chunks fuel self

/-- The bytes the sync tail adds to the queue. -/
def tail (engine : Engine Core) (self : Deflate Core) : Bytes :=
  match engine.sync self.compressor.core with
  | some (tail, _) => tail
  | none => []

/-- What a flush has to write. -/
def queue (engine : Engine Core) (self : Deflate Core) : Bytes :=
  self.compressor.pending ++ self.tail engine

/-- Every round but the last writes something, so the queue bounds their number. -/
def flush (engine : Engine Core) (chunks : Chunks) (self : Deflate Core) :
    Option (Bytes × Deflate Core) :=
  (flushLoop engine chunks ((self.queue engine).length + 1) self).map takeOutput

def compress (engine : Engine Core) (chunks : Chunks) (fuel : Nat) (self : Deflate Core)
    (input : Bytes) (flush : Bool) : Option (Result Bytes × Deflate Core) :=
  match self.writeAll engine chunks fuel input with
  | none => none
  | some (.error error, self) => some (.error error, self)
  | some (.ok (), self) =>
    if flush then (self.flush engine chunks).map fun (bytes, self) => (.ok bytes, self)
    else let (bytes, self) := self.takeOutput; some (.ok bytes, self)

end Deflate

end Yawc
