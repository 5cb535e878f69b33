import Yawc.Mask
import Yawc.Library.Incremental

/-! The frame codec on a 64-bit target: header parsing, the packed state of a
frame whose payload is still arriving, and the encoder. -/

namespace Yawc

/-- The side of the connection. Clients mask what they send. -/
inductive Role where
  | server
  | client
  deriving DecidableEq, Repr

def Role.opposite : Role → Role
  | server => client
  | client => server

/-- The packed state between header and payload. Only valid opcodes are stored,
and a frame is only saved while bytes of its payload are missing. -/
structure ReadState where
  flags : UInt8
  key : Mask
  payloadLen : Nat
  validOpcode : flags &&& 0x0F ≤ 5
  awaitsPayload : 0 < payloadLen

namespace ReadState

def packFlags (fin rsv1 : Bool) (opcode : OpCode) (masked : Bool) : UInt8 :=
  fin.toUInt8 <<< 7 ||| rsv1.toUInt8 <<< 6 ||| opcode.discriminant &&& 0x0F |||
    if masked then 0x10 else 0

theorem packFlags_validOpcode (fin rsv1 : Bool) (opcode : OpCode) (masked : Bool) :
    packFlags fin rsv1 opcode masked &&& 0x0F ≤ 5 := by
  cases fin <;> cases rsv1 <;> cases opcode <;> cases masked <;> decide

def new (fin rsv1 : Bool) (opcode : OpCode) (mask : Option Mask) (payloadLen : Nat)
    (awaitsPayload : 0 < payloadLen) : ReadState where
  flags := packFlags fin rsv1 opcode mask.isSome
  key := mask.getD ⟨0, 0, 0, 0⟩
  payloadLen := payloadLen
  validOpcode := packFlags_validOpcode fin rsv1 opcode mask.isSome
  awaitsPayload := awaitsPayload

def fin (self : ReadState) : Bool := self.flags &&& 0x80 ≠ 0

def rsv1 (self : ReadState) : Bool := self.flags &&& 0x40 ≠ 0

def opcode (self : ReadState) : OpCode := .transmute (self.flags &&& 0x0F) self.validOpcode

def mask (self : ReadState) : Option Mask :=
  if self.flags &&& 0x10 ≠ 0 then some self.key else none

end ReadState

structure Decoder where
  role : Role
  state : Option ReadState
  maxPayloadSize : UInt64

/-- What the first bytes of a frame say about it. -/
structure Header where
  fin : Bool
  rsv1 : Bool
  opcode : OpCode
  mask : Option Mask
  payloadLen : Nat
  deriving DecidableEq

/-- The key in front of the buffer. The caller has checked that it is there. -/
def keyAt : Bytes → Mask
  | a :: b :: c :: d :: _ => ⟨a, b, c, d⟩
  | _ => ⟨0, 0, 0, 0⟩

/-- Bytes the extended length takes. -/
def extraLength (lengthCode : UInt8) : Nat :=
  if lengthCode = 126 then 2 else if lengthCode = 127 then 8 else 0

def isMasked (second : UInt8) : Bool := second &&& 0b10000000 ≠ 0

/-- The size of the whole header, as its second byte gives it. -/
def headerSize (second : UInt8) : Nat :=
  2 + extraLength (second &&& 0x7F) + if isMasked second then 4 else 0

/-- The payload length, from the seven bits or the bytes behind them. -/
def readLength (lengthCode : UInt8) (src : Bytes) : Nat × Bytes :=
  if extraLength lengthCode = 0 then (lengthCode.toNat, src)
  else (BigEndian.ofBytes (src.take (extraLength lengthCode)), src.drop (extraLength lengthCode))

def readMask (masked : Bool) (src : Bytes) : Option Mask × Bytes :=
  if masked then (some (keyAt src), src.drop 4) else (none, src)

/-- Reads the header off the buffer, or nothing while it is incomplete. The
first two bytes are judged before the rest has to be there. -/
def parseHeader : Bytes → Result (Option (Header × Bytes))
  | first :: second :: src =>
    if first &&& 0b00110000 ≠ 0 then .error .reservedBitsNotZero
    else
      match OpCode.tryFrom (first &&& 0b00001111) with
      | .error error => .error error
      | .ok opcode =>
        if 2 + src.length < headerSize second then .ok none
        else
          let (payloadLen, src) := readLength (second &&& 0x7F) src
          let (mask, src) := readMask (isMasked second) src
          let fin : Bool := first &&& 0b10000000 ≠ 0
          let rsv1 : Bool := first &&& 0b01000000 ≠ 0
          .ok (some ({ fin, rsv1, opcode, mask, payloadLen }, src))
  | _ => .ok none

namespace Decoder

def new (role : Role) (maxPayloadSize : UInt64) : Decoder :=
  { role, state := none, maxPayloadSize }

/-- The checks made once the header is complete. -/
def validate (self : Decoder) (header : Header) : Result Unit :=
  if header.opcode.isControl ∧ header.fin = false then .error .controlFrameFragmented
  else if header.opcode = .ping ∧ 125 < header.payloadLen then .error .pingFrameTooLarge
  else if self.maxPayloadSize.toNat ≤ header.payloadLen then .error .frameTooLarge
  else .ok ()

/-- Unmasks the payload in place. Only a server does, and it refuses a frame
that carries no key. -/
def unmask (cpu : Cpu) (role : Role) (mask : Option Mask) (payloadLen : Nat) (src : Bytes) :
    Result Bytes :=
  match role with
  | .server =>
    match mask with
    | none => .error .invalidFragment
    | some mask => .ok (applyMask cpu (src.take payloadLen) mask ++ src.drop payloadLen)
  | .client => .ok src

/-- A call that finds a saved frame: wait for its payload, then finish it. -/
def resume (cpu : Cpu) (self : Decoder) (state : ReadState) (src : Bytes) :
    Result (Option Frame) × Decoder × Bytes :=
  if src.length < state.payloadLen then (.ok none, { self with state := some state }, src)
  else
    match unmask cpu self.role state.mask state.payloadLen src with
    | .error error => (.error error, { self with state := none }, src)
    | .ok src =>
      (.ok (some { Frame.new state.fin state.opcode state.mask (src.take state.payloadLen) with
          isCompressed := state.rsv1 }),
        { self with state := none }, src.drop state.payloadLen)

/-- A call whose buffer starts with a complete header: save the frame while its
payload is incomplete, otherwise finish it at once. -/
def complete (cpu : Cpu) (self : Decoder) (header : Header) (src : Bytes) :
    Result (Option Frame) × Decoder × Bytes :=
  if missing : src.length < header.payloadLen then
    (.ok none,
      { self with
        state := some (.new header.fin header.rsv1 header.opcode header.mask header.payloadLen
          (by omega)) },
      src)
  else
    match unmask cpu self.role header.mask header.payloadLen src with
    | .error error => (.error error, self, src)
    | .ok src =>
      (.ok (some { Frame.new header.fin header.opcode header.mask
          (src.take header.payloadLen) with isCompressed := header.rsv1 }),
        self, src.drop header.payloadLen)

def decode (cpu : Cpu) (self : Decoder) (src : Bytes) :
    Result (Option Frame) × Decoder × Bytes :=
  match self.state with
  | some state => self.resume cpu state src
  | none =>
    match parseHeader src with
    | .error error => (.error error, self, src)
    | .ok none => (.ok none, self, src)
    | .ok (some (header, src)) =>
      match self.validate header with
      | .error error => (.error error, self, src)
      | .ok () => self.complete cpu header src

end Decoder

/-- The frame header, up to the key. -/
def Frame.writeHead (frame : Frame) : Bytes :=
  let first := frame.fin.toUInt8 <<< 7 ||| frame.isCompressed.toUInt8 <<< 6 ||| frame.opcode.toU8
  let masked : UInt8 := if frame.mask.isSome then 0x80 else 0
  let length := frame.payload.length
  let fixed :=
    if length < 126 then [first, UInt8.ofNat length ||| masked]
    else if length < 65536 then first :: (126 ||| masked) :: BigEndian.toBytes 2 length
    else first :: (127 ||| masked) :: BigEndian.toBytes 8 length
  fixed ++ (frame.mask.map Mask.bytes).getD []

/-- Appends the frame to the output. A client frame without a key of its own
gets the random one. -/
def Encoder.encode (cpu : Cpu) (role : Role) (frame : Frame) (random : Mask) (dst : Bytes) : Bytes :=
  let frame := match role with
    | .client => frame.setRandomMaskIfNotSet random
    | .server => frame
  let payload := match frame.mask with
    | some mask => copyMask cpu frame.payload mask
    | none => frame.payload
  dst ++ frame.writeHead ++ payload

end Yawc
