import Yawc.Compression.Deflate
import Yawc.Compression.Extensions

/-! The two wrappers around flate2's objects with every status and error a call
can report, and what a message leaves behind in them. -/

namespace Yawc.Pooling

/-- An empty stored block, where a byte starts. -/
def emptyBlock : Bytes := 0x0 :: syncMarker

inductive FlushDecompress where
  | noFlush
  | syncFlush
  deriving DecidableEq

/-- What a call into flate2 reports: its status or the text of its error, the
growth of `total_in`, the bytes written to the chunk (the growth of
`total_out`), and the object after it. -/
structure Called (Object : Type) where
  status : Except String Status
  consumed : Nat
  written : Bytes
  next : Object

/-- One of flate2's objects. It is built from its settings, with a given window
or its own, called with input, the size of the chunk and a flush mode, and
reset. -/
structure Codec (Settings Flush Object : Type) where
  new : Settings → Object
  newWithWindowBits : Settings → UInt8 → Object
  call : Object → Bytes → Nat → Flush → Called Object
  reset : Object → Object

namespace Codec

variable {Settings Flush Object : Type}

/-- An object built with these settings and this window, in any state it can
be brought to. -/
inductive Used (codec : Codec Settings Flush Object) (settings : Settings) (window : UInt8) :
    Object → Prop where
  | built : Used codec settings window (codec.newWithWindowBits settings window)
  | called (used : Used codec settings window object) (input : Bytes) (room : Nat)
      (flush : Flush) : Used codec settings window (codec.call object input room flush).next
  | reset (used : Used codec settings window object) :
      Used codec settings window (codec.reset object)

/-- What is assumed of flate2: its own window has 15 bits, and a reset brings
an object back to the state it was built in. -/
structure Lawful (codec : Codec Settings Flush Object) : Prop where
  default_window : ∀ settings, codec.new settings = codec.newWithWindowBits settings 15
  reset_built : ∀ {settings window object}, 9 ≤ window → window ≤ 15 →
    codec.Used settings window object → codec.reset object = codec.newWithWindowBits settings window

end Codec

/-- flate2's compressors, built for a level, and its decompressors. -/
structure Flate2 (Compress Decompress : Type) where
  compress : Codec UInt32 FlushCompress Compress
  decompress : Codec Unit FlushDecompress Decompress

structure Flate2.Lawful {Compress Decompress : Type} (flate : Flate2 Compress Decompress) :
    Prop where
  compress : flate.compress.Lawful
  decompress : flate.decompress.Lawful

/-- The spare capacity `chunk` finds in an output buffer. It depends on what the
allocator gave and on which earlier outputs are still in use. -/
abbrev Room := { room : Nat // 1024 ≤ room }

/-- `Deflate`, with the level it was built with. -/
structure Deflate (Compress : Type) where
  output : Bytes
  compressor : Compress
  level : UInt32

/-- `Inflate`, with the mark of a final block. -/
structure Inflate (Decompress : Type) where
  output : Bytes
  decompressor : Decompress
  streamEnded : Bool

def corruptStream : WebSocketError := .ioError "corrupt deflate stream"

namespace Deflate

variable {Compress : Type} (flate : Codec UInt32 FlushCompress Compress)

def new (level : UInt32) : Deflate Compress :=
  { output := [], compressor := flate.new level, level }

def newWithWindowBits (level : UInt32) (windowBits : UInt8) : Deflate Compress :=
  { output := [], compressor := flate.newWithWindowBits level windowBits, level }

def reset (self : Deflate Compress) : Deflate Compress :=
  { self with compressor := flate.reset self.compressor }

def takeOutput (self : Deflate Compress) : Bytes × Deflate Compress :=
  (self.output, { self with output := [] })

def write (self : Deflate Compress) (input : Bytes) (room : Nat) :
    Result Nat × Deflate Compress :=
  let called := flate.call self.compressor input room .partialFlush
  let next := { self with output := self.output ++ called.written, compressor := called.next }
  match called.status with
  | .ok .ok => (.ok called.consumed, next)
  | .ok .streamEnd | .ok .bufError | .error _ => (.error corruptStream, next)

/-- The write loop, which returns the rooms that are left. Each round asks for
a chunk, and a call that asks for more chunks than there are rooms has not
returned. -/
def writeAll : List Room → Deflate Compress → Bytes →
    Option (Result (List Room) × Deflate Compress)
  | rooms, self, [] => some (.ok rooms, self)
  | [], _, _ :: _ => none
  | room :: rooms, self, byte :: bytes =>
    match self.write flate (byte :: bytes) room with
    | (.error error, next) => some (.error error, next)
    | (.ok consumed, next) => writeAll rooms next ((byte :: bytes).drop consumed)

def flush : List Room → Deflate Compress → Option (Result Bytes × Deflate Compress)
  | [], _ => none
  | room :: rooms, self =>
    let called := flate.call self.compressor [] room .syncFlush
    match called.status with
    | .error error =>
      some (.error (.ioError ("Compression error: " ++ error)),
        { self with compressor := called.next })
    | .ok status =>
      let output := self.output ++ called.written
      if called.written.isEmpty ∧ status = .bufError then
        some (.ok (output ++ [0x0]), { self with output := [], compressor := called.next })
      else if syncMarker.isSuffixOf output then
        some (.ok (output.take (output.length - 4)),
          { self with output := [], compressor := called.next })
      else flush rooms { self with output, compressor := called.next }

def compress (rooms : List Room) (self : Deflate Compress) (input : Bytes) (flushing : Bool) :
    Option (Result Bytes × Deflate Compress) :=
  match self.writeAll flate rooms input with
  | none => none
  | some (.error error, next) => some (.error error, next)
  | some (.ok rooms, next) =>
    if flushing then next.flush flate rooms
    else
      let (bytes, next) := next.takeOutput
      some (.ok bytes, next)

/-- The wrapper of an object built with this level and window. -/
structure Kept (level : UInt32) (window : UInt8) (deflate : Deflate Compress) : Prop where
  labelled : deflate.level = level
  used : flate.Used level window deflate.compressor

/-- What a call leaves: a wrapper of the same object, and no output if the call
was a success. -/
structure Leaves (level : UInt32) (window : UInt8) (result : Result Bytes)
    (next : Deflate Compress) : Prop where
  kept : Kept flate level window next
  emptied : result.isOk → next.output = []

variable {flate} {level : UInt32} {window : UInt8}

theorem Leaves.failed {next : Deflate Compress} (kept : Kept flate level window next)
    (error : WebSocketError) : Leaves flate level window (.error error) next where
  kept := kept
  emptied := by simp [Except.isOk, Except.toBool]

theorem Kept.called {self : Deflate Compress} (kept : Kept flate level window self)
    (input : Bytes) (room : Nat) (mode : FlushCompress) (output : Bytes) :
    Kept flate level window
      { self with output, compressor := (flate.call self.compressor input room mode).next } where
  labelled := kept.labelled
  used := kept.used.called input room mode

end Deflate

namespace Inflate

variable {Decompress : Type} (flate : Codec Unit FlushDecompress Decompress)

def default : Inflate Decompress :=
  { output := [], decompressor := flate.new (), streamEnded := false }

def newWithWindowBits (windowBits : UInt8) : Inflate Decompress :=
  { output := [], decompressor := flate.newWithWindowBits () windowBits, streamEnded := false }

def reset (self : Inflate Decompress) : Inflate Decompress :=
  { self with decompressor := flate.reset self.decompressor, streamEnded := false }

def takeOutput (self : Inflate Decompress) : Bytes × Inflate Decompress :=
  (self.output, { self with output := [] })

/-- One round of the write loop behind `inflate_chunk`: whether the stream ended
and how much of the input was taken. -/
def writeRound (self : Inflate Decompress) (input : Bytes) (room maxOutputSize : Nat) :
    Result (Bool × Nat) × Inflate Decompress :=
  let called := flate.call self.decompressor input
    (min room (maxOutputSize - self.output.length)) .noFlush
  let next := { self with output := self.output ++ called.written, decompressor := called.next }
  if maxOutputSize ≤ next.output.length then (.error .frameTooLarge, next)
  else
    match called.status with
    | .ok .streamEnd => (.ok (true, called.consumed), next)
    | .ok .ok | .ok .bufError =>
      if called.consumed = 0 ∧ called.written.isEmpty then
        (.error (.ioError "deflate stream made no progress"), next)
      else (.ok (false, called.consumed), next)
    | .error _ => (.error corruptStream, next)

/-- The write loop, which stops at a final block. The output may have reached
its limit before the first chunk. -/
def write (maxOutputSize : Nat) : List Room → Inflate Decompress → Bytes →
    Option (Result (List Room) × Inflate Decompress)
  | rooms, self, [] => some (.ok rooms, self)
  | rooms, self, byte :: bytes =>
    if maxOutputSize ≤ self.output.length then some (.error .frameTooLarge, self)
    else
      match rooms with
      | [] => none
      | room :: rooms =>
        match self.writeRound flate (byte :: bytes) room maxOutputSize with
        | (.error error, next) => some (.error error, next)
        | (.ok (true, _), next) => some (.ok rooms, { next with streamEnded := true })
        | (.ok (false, consumed), next) =>
          write maxOutputSize rooms next ((byte :: bytes).drop consumed)

/-- The flush loop, whose first round is a sync flush. -/
def flush (maxOutputSize : Nat) : FlushDecompress → List Room → Inflate Decompress →
    Option (Result Bytes × Inflate Decompress)
  | mode, rooms, self =>
    if maxOutputSize ≤ self.output.length then some (.error .frameTooLarge, self)
    else
      match rooms with
      | [] => none
      | room :: rooms =>
        let called := flate.call self.decompressor []
          (min room.1 (maxOutputSize - self.output.length)) mode
        match called.status with
        | .error error =>
          some (.error (.ioError ("Decompression error: " ++ error)),
            { self with decompressor := called.next })
        | .ok _ =>
          if called.written.isEmpty ∧ mode = .noFlush then
            some (.ok self.output, { self with output := [], decompressor := called.next })
          else
            flush maxOutputSize .noFlush rooms
              { self with output := self.output ++ called.written, decompressor := called.next }

/-- The end of a message, behind its payload. A stream that a final block ended
is not given the suffix, and starts afresh. -/
def endMessage (rooms : List Room) (self : Inflate Decompress) (maxOutputSize : Nat) :
    Option (Result Bytes × Inflate Decompress) :=
  let written :=
    if self.streamEnded then some (.ok rooms, self)
    else self.write flate maxOutputSize rooms syncMarker
  match written with
  | none => none
  | some (.error error, next) => some (.error error, next)
  | some (.ok rooms, next) =>
    match next.flush flate maxOutputSize .syncFlush rooms with
    | some (.ok bytes, next) =>
      some (.ok bytes, if next.streamEnded then next.reset flate else next)
    | other => other

def decompress (rooms : List Room) (self : Inflate Decompress) (input : Bytes) (streamEnd : Bool)
    (maxOutputSize : Nat) : Option (Result Bytes × Inflate Decompress) :=
  if maxOutputSize = 0 then some (.error .frameTooLarge, self)
  else
    match self.write flate maxOutputSize rooms input with
    | none => none
    | some (.error error, next) => some (.error error, next)
    | some (.ok rooms, next) =>
      if streamEnd then next.endMessage flate rooms maxOutputSize
      else
        let (bytes, next) := next.takeOutput
        some (.ok bytes, next)

/-- What a call leaves, as for the compressor. -/
structure Leaves (window : UInt8) (result : Result Bytes) (next : Inflate Decompress) : Prop where
  used : flate.Used () window next.decompressor
  emptied : result.isOk → next.output = []

variable {flate} {window : UInt8} {maxOutputSize : Nat}

theorem Leaves.failed {next : Inflate Decompress}
    (used : flate.Used () window next.decompressor) (error : WebSocketError) :
    Leaves flate window (.error error) next where
  used := used
  emptied := by simp [Except.isOk, Except.toBool]

end Inflate

end Yawc.Pooling
