import Yawc.Native.Split
import Yawc.Native.Handshake

/-! The streaming connection: frames in both directions, compression, and the
replies it owes the peer. Buffer capacities and wakers are left out, as they do
not change what the calls return or send. -/

namespace Yawc

/-- A compressor, as a function of the calls made on it so far. It only fails
with an I/O error. -/
structure Compressor where
  output : List (Bytes × Bool) → Bytes → Bool → Except String Bytes
  calls : List (Bytes × Bool)

def Compressor.compress (self : Compressor) (input : Bytes) (flush : Bool) :
    Result Bytes × Compressor :=
  ((self.output self.calls input flush).mapError .ioError,
    { self with calls := self.calls ++ [(input, flush)] })

/-- Why inflating fails. -/
inductive InflateError where
  | frameTooLarge
  | io (message : String)

def InflateError.toError : InflateError → WebSocketError
  | frameTooLarge => .frameTooLarge
  | io message => .ioError message

/-- A decompressor, likewise. A call also gets the bound on its output. -/
structure Decompressor where
  output : List (Bytes × Bool × Nat) → Bytes → Bool → Nat → Except InflateError Bytes
  calls : List (Bytes × Bool × Nat)

def Decompressor.decompress (self : Decompressor) (input : Bytes) (streamEnd : Bool)
    (maxOutputSize : Nat) : Result Bytes × Decompressor :=
  ((self.output self.calls input streamEnd maxOutputSize).mapError InflateError.toError,
    { self with calls := self.calls ++ [(input, streamEnd, maxOutputSize)] })

/-- How new compressors and decompressors behave under the negotiated settings. -/
structure Flate where
  compress : CompressionConfig → List (Bytes × Bool) → Bytes → Bool → Except String Bytes
  decompress :
    CompressionConfig → List (Bytes × Bool × Nat) → Bytes → Bool → Nat → Except InflateError Bytes

def Flate.compressor (self : Flate) (config : CompressionConfig) : Compressor :=
  { output := self.compress config, calls := [] }

def Flate.decompressor (self : Flate) (config : CompressionConfig) : Decompressor :=
  { output := self.decompress config, calls := [] }

/-- Stands in for deflate where a fixed run needs some compressor: it stores. -/
def Flate.stored : Flate where
  compress _ _ input _ := .ok input
  decompress _ _ input _ _ := .ok input

/-- What default options without extensions come to. -/
def Negotiation.plain : Negotiation where
  compression := none
  maxPayloadRead := 1024 * 1024
  maxReadBuffer := 2 * 1024 * 1024
  readBufferCapacity := none
  writeBufferCapacity := none
  utf8 := false
  fragmentation := none
  maxBackpressureWriteBoundary := none
  compressionThreshold := 0

example (role : Role) : Negotiation.new none .default role = .ok .plain := rfl

/-- `queued` keeps every frame that was ever put on `obligatedSends`. -/
structure Streaming where
  stream : Framed
  readHalf : ReadHalf
  writeHalf : WriteHalf
  obligatedSends : List Frame
  flushSends : Bool
  deflate : Option Compressor
  inflate : Option Decompressor
  maxPayloadRead : Nat
  compressionThreshold : Nat
  queued : List Frame

namespace Streaming

def new (flate : Flate) (stream : Framed) (negotiated : Negotiation) : Streaming where
  stream := stream
  readHalf := .new
  writeHalf := .new
  obligatedSends := []
  flushSends := false
  deflate := negotiated.compression.map flate.compressor
  inflate := negotiated.compression.map flate.decompressor
  maxPayloadRead := negotiated.maxPayloadRead.toNat
  compressionThreshold := negotiated.compressionThreshold.toNat
  queued := []

/-- The frames handed to the codec, in order. -/
def handed (self : Streaming) : List Frame := self.stream.handed

section Writing

def pollWriteReady (self : Streaming) : Reply × Streaming :=
  let (reply, stream) := self.writeHalf.pollReady self.stream
  (reply, { self with stream })

def writeStartSend (self : Streaming) (frame : Frame) : Result Unit × Streaming :=
  let (result, writeHalf, stream) := self.writeHalf.startSend self.stream frame
  (result, { self with writeHalf, stream })

def pollWriteFlush (self : Streaming) : Reply × Streaming :=
  let (reply, stream) := WriteHalf.pollFlush self.stream
  (reply, { self with stream })

/-- Hands over the first owed frame. It leaves the queue before the sink takes
it. -/
def sendObligated (self : Streaming) (next : Frame) (rest : List Frame) :
    Poll.Attempt WebSocketError Streaming Unit :=
  Poll.andThen self.pollWriteReady fun _ self =>
    match { self with obligatedSends := rest }.writeStartSend next with
    | (.error error, self) => (.ready (.error error), self)
    | (.ok (), self) => (.ready (.ok ()), { self with flushSends := true })

/-- The loop over the owed frames, which no step makes more. -/
def sendAllObligated : List Frame → Streaming → Poll.Attempt WebSocketError Streaming Unit
  | [], self => (.ready (.ok ()), self)
  | next :: rest, self =>
    Poll.andThen (self.sendObligated next rest) fun _ self => sendAllObligated rest self

def flushObligated (self : Streaming) : Reply × Streaming :=
  Poll.andThen (sendAllObligated self.obligatedSends self) fun _ self =>
    if self.flushSends then
      Poll.andThen self.pollWriteFlush fun _ self =>
        (.ready (.ok ()), { self with flushSends := false })
    else (.ready (.ok ()), self)

def pollFlushObligated (self : Streaming) : Reply × Streaming :=
  if self.obligatedSends.isEmpty ∧ ¬ self.flushSends then (.ready (.ok ()), self)
  else Poll.again flushObligated self

/-- With nothing owed the sink is asked directly. How full the write buffer is
only decides who is woken. -/
def pollReady (self : Streaming) : Reply × Streaming :=
  if self.obligatedSends.isEmpty ∧ ¬ self.flushSends then self.pollWriteReady
  else Poll.andThen self.pollFlushObligated fun _ self => self.pollWriteReady

/-- Whether a frame is compressed: data frames are, except for small messages
sent as one frame. -/
def shouldCompress (self : Streaming) (item : Frame) : Bool :=
  let smallMessage := item.opcode ≠ .continuation && item.fin &&
    item.payload.length < self.compressionThreshold
  !item.opcode.isControl && !smallMessage

/-- The frame as it is handed on, compressed if it has to be. -/
def prepare (self : Streaming) (item : Frame) : Result Frame × Streaming :=
  match self.deflate with
  | none => (.ok item, self)
  | some deflate =>
    if self.shouldCompress item then
      match deflate.compress item.payload item.fin with
      | (.error error, deflate) => (.error error, { self with deflate := some deflate })
      | (.ok output, deflate) =>
        (.ok { item with isCompressed := !self.writeHalf.streaming, payload := output },
          { self with deflate := some deflate })
    else (.ok item, self)

def startSend (self : Streaming) (item : Frame) : Result Unit × Streaming :=
  match self.prepare item with
  | (.error error, self) => (.error error, self)
  | (.ok item, self) => self.writeStartSend item

def pollFlush (self : Streaming) : Reply × Streaming := self.pollWriteFlush

def pollClose (self : Streaming) : Reply × Streaming :=
  let (reply, writeHalf, stream) := self.writeHalf.pollClose self.stream
  (reply, { self with writeHalf, stream })

end Writing

section Reading

def pollFrame (self : Streaming) : Poll (Result Frame) × Streaming :=
  let (result, readHalf, stream) := self.readHalf.pollFrame self.stream
  (result, { self with readHalf, stream })

def oblige (self : Streaming) (frame : Frame) : Streaming :=
  { self with
    obligatedSends := self.obligatedSends ++ [frame]
    queued := self.queued ++ [frame] }

def onPing (self : Streaming) (frame : Frame) : Streaming := self.oblige (.pong frame.payload)

def emitClose (self : Streaming) (frame : Frame) : Streaming :=
  { self.oblige frame with readHalf := { self.readHalf with isClosed := true } }

/-- The check of a received Close frame. -/
def checkClose (frame : Frame) : Result Unit :=
  match frame.payload with
  | [] => .ok ()
  | [_] => .error .invalidCloseFrame
  | _ =>
    match frame.closeReason with
    | .error error => .error error
    | .ok _ =>
      if (frame.closeCode.map (·.isAllowed)).getD false then .ok () else .error .invalidCloseCode

def onClose (self : Streaming) (frame : Frame) : Result Unit × Streaming :=
  match checkClose frame with
  | .error error => (.error error, self)
  | .ok () => (.ok (), self.emitClose (.closeRaw frame.payload))

/-- The bound on a data frame's payload. Only fragments are held to the
reassembly limit. -/
def maxOutputSize (self : Streaming) (frame : Frame) (maxReadBuffer : Nat) : Nat :=
  if !frame.fin ∨ frame.opcode = .continuation then min self.maxPayloadRead maxReadBuffer
  else self.maxPayloadRead

def inflateFrame (self : Streaming) (frame : Frame) (maxOutputSize : Nat) :
    Result Frame × Streaming :=
  if frame.isCompressed then
    match self.inflate with
    | none => (.error .compressionNotSupported, self)
    | some inflate =>
      let (output, inflate) := inflate.decompress frame.payload frame.fin maxOutputSize
      (output.map fun payload => { frame with payload, isCompressed := false },
        { self with inflate := some inflate })
  else (.ok frame, self)

/-- A data frame: inflated if it counts as compressed, and refused once its
payload reaches the bound. -/
def onData (self : Streaming) (frame : Frame) (maxReadBuffer : Nat) : Result Frame × Streaming :=
  let maxOutputSize := self.maxOutputSize frame maxReadBuffer
  match self.inflateFrame frame maxOutputSize with
  | (.error error, self) => (.error error, self)
  | (.ok frame, self) =>
    if maxOutputSize ≤ frame.payload.length then (.error .frameTooLarge, self) else (.ok frame, self)

def onFrame (self : Streaming) (frame : Frame) (maxReadBuffer : Nat) : Result Frame × Streaming :=
  match frame.opcode with
  | .ping => (.ok frame, self.onPing frame)
  | .close =>
    match self.onClose frame with
    | (.error error, self) => (.error error, self)
    | (.ok (), self) => (.ok frame, self)
  | .pong => (.ok frame, self)
  | _ => self.onData frame maxReadBuffer

/-- The Close that names a read error. -/
def closeFor (error : WebSocketError) : Frame := .close error.closeCode (textBytes error.toString)

/-- What follows a poll of the reader. Every error but the end of the
connection queues a Close that names it. -/
def onPolled (self : Streaming) (polled : Poll (Result Frame)) (maxReadBuffer : Nat) :
    Poll (Result Frame) × Streaming :=
  let (result, self) : Poll (Result Frame) × Streaming := match polled with
    | .ready (.ok frame) =>
      let (result, self) := self.onFrame frame maxReadBuffer
      (.ready result, self)
    | other => (other, self)
  match result with
  | .ready (.ok frame) => (.ready (.ok frame), self)
  | .ready (.error .connectionClosed) =>
    Poll.andThen self.pollFlushObligated fun _ self => (.ready (.error .connectionClosed), self)
  | .ready (.error error) =>
    (.ready (.error error), self.emitClose (closeFor error))
  | .pending => Poll.andThen self.pollFlushObligated fun _ self => (.pending, self)

/-- Polls the reader, twice if bytes are buffered and the first poll is pending. -/
def pollReader (self : Streaming) : Poll (Result Frame) × Streaming :=
  if self.stream.hasBuffered then Poll.again pollFrame self else self.pollFrame

def pollNextFrameWithLimit (self : Streaming) (maxReadBuffer : Nat) :
    Poll (Result Frame) × Streaming :=
  let (polled, self) := self.pollReader
  self.onPolled polled maxReadBuffer

def pollNextFrame (self : Streaming) : Poll (Result Frame) × Streaming :=
  self.pollNextFrameWithLimit self.maxPayloadRead

end Reading

end Streaming

end Yawc
