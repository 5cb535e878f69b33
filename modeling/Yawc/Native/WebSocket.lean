import Yawc.Native.Streaming

/-! The message-level connection: fragmentation of what is sent, reassembly of
what arrives, and the calls a user makes. -/

namespace Yawc

/-- A fragmented message whose end has not arrived. -/
structure FragmentationState where
  started : Nat
  opcode : OpCode
  isCompressed : Bool
  bytesRead : Nat
  deriving DecidableEq

structure FragmentLayer where
  outgoingFragments : List Frame
  incomingFragment : Option FragmentationState
  incomingBuffer : Bytes
  fragmentSize : Option Nat
  maxReadBuffer : Nat
  fragmentTimeout : Option Nat

namespace FragmentLayer

def new (fragmentSize : Option Nat) (maxReadBuffer : Nat) (fragmentTimeout : Option Nat) :
    FragmentLayer where
  outgoingFragments := []
  incomingFragment := none
  incomingBuffer := []
  fragmentSize := fragmentSize
  maxReadBuffer := maxReadBuffer
  fragmentTimeout := fragmentTimeout

/-- `usize::MAX` on a 64-bit target. -/
def usizeMax : Nat := 2 ^ 64 - 1

/-- The fragments of an outgoing frame, or nothing if the call does not return:
it panics on a manual fragment, and a size of 0 never comes to an end. -/
def fragmentsOf (self : FragmentLayer) (frame : Frame) : Option (List Frame) :=
  if !frame.fin ∧ self.fragmentSize.isSome then none
  else (frame.intoFragments (self.fragmentSize.getD usizeMax)).collect (frame.payload.length + 2)

def fragmentOutgoing (self : FragmentLayer) (frame : Frame) : Option FragmentLayer :=
  (self.fragmentsOf frame).map fun fragments =>
    { self with outgoingFragments := self.outgoingFragments ++ fragments }

def remainingReadCapacity (self : FragmentLayer) : Nat :=
  self.maxReadBuffer - (self.incomingFragment.map (·.bytesRead)).getD 0

/-- A fragment behind the first one of the open message. A message that fails
is forgotten. -/
def continueMessage (self : FragmentLayer) (fragment : FragmentationState) (frame : Frame)
    (now : Nat) : Result (Option Frame) × FragmentLayer :=
  let self := { self with incomingFragment := none }
  let fragment := { fragment with bytesRead := fragment.bytesRead + frame.payload.length }
  if self.maxReadBuffer ≤ fragment.bytesRead then (.error .frameTooLarge, self)
  else if self.fragmentTimeout.any fun timeout => timeout < now - fragment.started then
    (.error .fragmentTimeout, self)
  else
    let buffer := self.incomingBuffer ++ frame.payload
    if frame.fin then
      (.ok (some { frame with
          opcode := fragment.opcode, isCompressed := fragment.isCompressed, payload := buffer }),
        { self with incomingBuffer := [] })
    else
      (.ok none, { self with incomingBuffer := buffer, incomingFragment := some fragment })

def assembleIncoming (self : FragmentLayer) (frame : Frame) (now : Nat) :
    Result (Option Frame) × FragmentLayer :=
  match frame.opcode with
  | .text | .binary =>
    if self.incomingFragment.isSome then (.error .invalidFragment, self)
    else if frame.fin then (.ok (some frame), self)
    else
      (.ok none,
        { self with
          incomingBuffer := frame.payload
          incomingFragment := some {
            started := now
            opcode := frame.opcode
            isCompressed := frame.isCompressed
            bytesRead := frame.payload.length } })
  | .continuation =>
    match self.incomingFragment with
    | none => (.error .invalidFragment, self)
    | some fragment => self.continueMessage fragment frame now
  | _ => (.ok (some frame), self)

end FragmentLayer

structure WebSocket where
  streaming : Streaming
  checkUtf8 : Bool
  fragmentLayer : FragmentLayer

namespace WebSocket

def new (flate : Flate) (stream : Framed) (opts : Negotiation) : WebSocket where
  streaming := .new flate stream opts
  checkUtf8 := opts.utf8
  fragmentLayer := .new ((opts.fragmentation.bind (·.fragmentSize)).map (·.toNat))
    opts.maxReadBuffer.toNat (opts.fragmentation.bind (·.timeout))

/-- The frames handed to the codec, in order. -/
def handed (self : WebSocket) : List Frame := self.streaming.handed

section Reading

/-- Assembly and the check of a text message, at the time the frame arrived. -/
def onFrame (self : WebSocket) (frame : Frame) : Result (Option Frame) × WebSocket :=
  let (result, fragmentLayer) :=
    self.fragmentLayer.assembleIncoming frame self.streaming.stream.clock
  let self := { self with fragmentLayer }
  match result with
  | .ok (some frame) =>
    if frame.opcode = .text ∧ self.checkUtf8 ∧ ¬ fromUtf8 frame.payload then
      (.error .invalidUTF8, self)
    else (.ok (some frame), self)
  | other => (other, self)

/-- One poll of the streaming layer, bounded by what the open message may still
take. -/
def pollStreaming (self : WebSocket) : Poll (Result Frame) × WebSocket :=
  let (polled, streaming) :=
    self.streaming.pollNextFrameWithLimit self.fragmentLayer.remainingReadCapacity
  (polled, { self with streaming })

/-- The read loop. It only goes round when a fragment was taken in, so the
arrivals bound the rounds. -/
def readLoop : Nat → WebSocket → Poll (Result Frame) × WebSocket
  | 0, self => (.pending, self)
  | fuel + 1, self =>
    Poll.andThen self.pollStreaming fun frame self =>
      match self.onFrame frame with
      | (.error error, self) => (.ready (.error error), self)
      | (.ok (some frame), self) => (.ready (.ok frame), self)
      | (.ok none, self) => readLoop fuel self

def pollNextFrame (self : WebSocket) : Poll (Result Frame) × WebSocket :=
  self.readLoop (self.streaming.stream.incoming.length + 1)

/-- `next_frame`, unless it is given up behind so many polls. -/
def nextFrame : Nat → WebSocket → Option (Result Frame) × WebSocket
  | 0, self => (none, self)
  | polls + 1, self =>
    match self.pollNextFrame with
    | (.ready result, self) => (some result, self)
    | (.pending, self) => nextFrame polls self

end Reading

section Writing

def pollStreamingReady (self : WebSocket) : Reply × WebSocket :=
  let (reply, streaming) := self.streaming.pollReady
  (reply, { self with streaming })

/-- Hands over the first fragment. It leaves the queue before it is sent. -/
def sendFragment (self : WebSocket) (fragment : Frame) (rest : List Frame) :
    Poll.Attempt WebSocketError WebSocket Unit :=
  Poll.andThen self.pollStreamingReady fun _ self =>
    match self.streaming.startSend fragment with
    | (result, streaming) =>
      (.ready result,
        { self with
          streaming
          fragmentLayer := { self.fragmentLayer with outgoingFragments := rest } })

def sendFragments : List Frame → WebSocket → Poll.Attempt WebSocketError WebSocket Unit
  | [], self => (.ready (.ok ()), self)
  | fragment :: rest, self =>
    Poll.andThen (self.sendFragment fragment rest) fun _ self => sendFragments rest self

def pollFlushFragments (self : WebSocket) : Reply × WebSocket :=
  sendFragments self.fragmentLayer.outgoingFragments self

def pollReady (self : WebSocket) : Reply × WebSocket :=
  Poll.andThen self.pollFlushFragments fun _ self => self.pollStreamingReady

/-- Nothing if the call does not return. -/
def startSend (self : WebSocket) (item : Frame) : Option (Result Unit × WebSocket) :=
  if self.fragmentLayer.fragmentSize.isNone then
    let (result, streaming) := self.streaming.startSend item
    some (result, { self with streaming })
  else
    (self.fragmentLayer.fragmentOutgoing item).map fun fragmentLayer =>
      (.ok (), { self with fragmentLayer })

def pollFlush (self : WebSocket) : Reply × WebSocket :=
  Poll.andThen self.pollFlushFragments fun _ self =>
    let (reply, streaming) := self.streaming.pollFlush
    (reply, { self with streaming })

/-- Closing goes straight to the streaming layer. -/
def pollClose (self : WebSocket) : Reply × WebSocket :=
  let (reply, streaming) := self.streaming.pollClose
  (reply, { self with streaming })

end Writing

end WebSocket

/-- The calls a user makes on a connection. -/
inductive Call where
  | pollNextFrame
  | pollReady
  | startSend (frame : Frame)
  | pollFlush
  | pollClose
  deriving DecidableEq

/-- What a call returned. -/
inductive Answer where
  | read (frame : Poll (Result Frame))
  | reply (reply : Reply)
  | sent (result : Result Unit)
  deriving DecidableEq

def Streaming.step (self : Streaming) : Call → Answer × Streaming
  | .pollNextFrame => let (frame, self) := self.pollNextFrame; (.read frame, self)
  | .pollReady => let (reply, self) := self.pollReady; (.reply reply, self)
  | .startSend frame => let (result, self) := self.startSend frame; (.sent result, self)
  | .pollFlush => let (reply, self) := self.pollFlush; (.reply reply, self)
  | .pollClose => let (reply, self) := self.pollClose; (.reply reply, self)

/-- Nothing if the call does not return. -/
def WebSocket.step (self : WebSocket) : Call → Option (Answer × WebSocket)
  | .pollNextFrame => let (frame, self) := self.pollNextFrame; some (.read frame, self)
  | .pollReady => let (reply, self) := self.pollReady; some (.reply reply, self)
  | .startSend frame => (self.startSend frame).map fun (result, self) => (.sent result, self)
  | .pollFlush => let (reply, self) := self.pollFlush; some (.reply reply, self)
  | .pollClose => let (reply, self) := self.pollClose; some (.reply reply, self)

end Yawc
