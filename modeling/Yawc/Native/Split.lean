import Yawc.Frame
import Yawc.Library.Poll

/-! The framed transport as the connection sees it, and the two halves that
drive it. -/

namespace Yawc

/-- The answer of a call on the sink side. -/
abbrev Reply := Poll (Result Unit)

/-- One poll of the framed stream: whether bytes were buffered before it, when
it happens, and what it yields. A closed connection is reported by the end of
the stream, never as an error of the decoder or the transport. -/
structure Arrival where
  buffered : Bool
  time : Nat
  item : Poll (Option (Result Frame))
  notClosed : item ≠ .ready (some (.error .connectionClosed))

/-- A frame that arrives at the given time. -/
def Arrival.at (time : Nat) (frame : Frame) : Arrival :=
  { buffered := true, time, item := .ready (some (.ok frame)), notClosed := by simp }

/-- A call made on the sink, with its answer. -/
inductive Event where
  | pollReady (reply : Reply)
  | startSend (frame : Frame) (result : Result Unit)
  | pollFlush (reply : Reply)
  | pollClose (reply : Reply)
  deriving DecidableEq

/-- The framed transport: what its next polls yield, what its next sink calls
answer, the time, and the sink calls made so far. Without further answers
everything is pending. -/
structure Framed where
  incoming : List Arrival
  replies : List Reply
  clock : Nat
  log : List Event

namespace Framed

/-- A transport that nothing has been sent through. -/
def new (incoming : List Arrival) (replies : List Reply) (clock : Nat) : Framed :=
  { incoming, replies, clock, log := [] }

/-- Whether the read buffer holds bytes. -/
def hasBuffered (self : Framed) : Bool := (self.incoming.head?.map (·.buffered)).getD false

def pollNext (self : Framed) : Poll (Option (Result Frame)) × Framed :=
  match self.incoming with
  | [] => (.pending, self)
  | arrival :: incoming => (arrival.item, { self with incoming, clock := arrival.time })

def nextReply (self : Framed) : Reply := self.replies.head?.getD .pending

def record (self : Framed) (event : Event) : Framed :=
  { self with replies := self.replies.tail, log := self.log ++ [event] }

def pollReady (self : Framed) : Reply × Framed :=
  (self.nextReply, self.record (.pollReady self.nextReply))

/-- A frame is encoded into the buffer at once, unless the sink fails. -/
def startSend (self : Framed) (frame : Frame) : Result Unit × Framed :=
  let result := match self.nextReply with
    | .ready (.error error) => .error error
    | _ => .ok ()
  (result, self.record (.startSend frame result))

def pollFlush (self : Framed) : Reply × Framed :=
  (self.nextReply, self.record (.pollFlush self.nextReply))

def pollClose (self : Framed) : Reply × Framed :=
  (self.nextReply, self.record (.pollClose self.nextReply))

/-- The frame an event handed to the codec. -/
def accepted : Event → Option Frame
  | .startSend frame (.ok ()) => some frame
  | _ => none

/-- The frames handed to the codec, in order. -/
def handed (self : Framed) : List Frame := self.log.filterMap accepted

end Framed

/-- The reader's state. -/
structure ReadHalf where
  compressedStream : Bool
  isClosed : Bool
  deriving DecidableEq

namespace ReadHalf

def new : ReadHalf := { compressedStream := false, isClosed := false }

/-- What becomes of a decoded frame. Fragments of a compressed message count as
compressed, although only the first carries the flag. -/
def receive (self : ReadHalf) (frame : Frame) : Frame × ReadHalf :=
  let isClosed := self.isClosed || frame.opcode = .close
  let isCompressed := frame.isCompressed || (!frame.opcode.isControl && self.compressedStream)
  let frame := { frame with mask := none, isCompressed }
  let opened := self.compressedStream ||
    ((frame.opcode = .text || frame.opcode = .binary) && !frame.fin && isCompressed)
  let compressedStream := opened && !(frame.opcode = .continuation && frame.fin)
  (frame, { compressedStream, isClosed })

def pollFrame (self : ReadHalf) (stream : Framed) : Poll (Result Frame) × ReadHalf × Framed :=
  if self.isClosed then (.ready (.error .connectionClosed), self, stream)
  else
    match stream.pollNext with
    | (.pending, stream) => (.pending, self, stream)
    | (.ready none, stream) =>
      (.ready (.error .connectionClosed), { self with isClosed := true }, stream)
    | (.ready (some (.error error)), stream) => (.ready (.error error), self, stream)
    | (.ready (some (.ok frame)), stream) =>
      let (frame, self) := self.receive frame
      (.ready (.ok frame), self, stream)

end ReadHalf

/-- The steps of a graceful close. -/
inductive CloseState where
  | sending (frame : Frame)
  | flushing
  | closing
  | done
  deriving DecidableEq

/-- The writer's state. -/
structure WriteHalf where
  streaming : Bool
  closeState : Option CloseState
  deriving DecidableEq

namespace WriteHalf

def new : WriteHalf := { streaming := false, closeState := none }

def pollReady (self : WriteHalf) (stream : Framed) : Reply × Framed :=
  if self.closeState = some .done then (.ready (.error .connectionClosed), stream)
  else stream.pollReady

/-- The writer's state once it takes a frame, whether or not the sink does. -/
def onSend (self : WriteHalf) (frame : Frame) : WriteHalf where
  closeState := if frame.opcode = .close then some .flushing else self.closeState
  streaming := if frame.opcode.isControl then self.streaming else !frame.fin

def startSend (self : WriteHalf) (stream : Framed) (frame : Frame) :
    Result Unit × WriteHalf × Framed :=
  let (result, stream) := stream.startSend frame
  (result, self.onSend frame, stream)

def pollFlush (stream : Framed) : Reply × Framed := stream.pollFlush

/-- The round of a close that is done. The loop has taken the state out, and this
round puts none back. -/
def pollDone (self : WriteHalf) (stream : Framed) : Reply × WriteHalf × Framed :=
  (.ready (.ok ()), { self with closeState := none }, stream)

/-- The last steps of a close. Only a pending answer holds it up: errors of the
transport are passed over. -/
def pollClosing (self : WriteHalf) (stream : Framed) : Reply × WriteHalf × Framed :=
  match stream.pollClose with
  | (.pending, stream) => (.pending, { self with closeState := some .closing }, stream)
  | (.ready _, stream) => self.pollDone stream

def pollFlushing (self : WriteHalf) (stream : Framed) : Reply × WriteHalf × Framed :=
  match stream.pollFlush with
  | (.pending, stream) => (.pending, { self with closeState := some .flushing }, stream)
  | (.ready _, stream) => self.pollClosing stream

/-- A Close frame the sink refuses is forgotten. -/
def pollSending (self : WriteHalf) (stream : Framed) (frame : Frame) : Reply × WriteHalf × Framed :=
  match stream.pollReady with
  | (.pending, stream) => (.pending, { self with closeState := some (.sending frame) }, stream)
  | (.ready _, stream) =>
    match stream.startSend frame with
    | (.error error, stream) => (.ready (.error error), { self with closeState := none }, stream)
    | (.ok (), stream) => self.pollFlushing stream

/-- The loop over the close state, unrolled: every round moves on to the next
state or returns. -/
def pollClose (self : WriteHalf) (stream : Framed) : Reply × WriteHalf × Framed :=
  match self.closeState with
  | none => self.pollSending stream (Frame.close .normal [])
  | some (.sending frame) => self.pollSending stream frame
  | some .flushing => self.pollFlushing stream
  | some .closing => self.pollClosing stream
  | some .done => self.pollDone stream

end WriteHalf

end Yawc
