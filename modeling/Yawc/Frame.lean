import Yawc.Error
import Yawc.Library.BigEndian

/-! Frames, their constructors, and the split of an outgoing message. -/

namespace Yawc

inductive OpCode where
  | continuation
  | text
  | binary
  | close
  | ping
  | pong
  deriving DecidableEq, Repr

namespace OpCode

def isControl : OpCode → Bool
  | close | ping | pong => true
  | continuation | text | binary => false

def tryFrom (value : UInt8) : Result OpCode :=
  if value = 0x0 then .ok continuation
  else if value = 0x1 then .ok text
  else if value = 0x2 then .ok binary
  else if value = 0x8 then .ok close
  else if value = 0x9 then .ok ping
  else if value = 0xA then .ok pong
  else .error (.invalidOpCode value)

/-- The opcode's value on the wire. -/
def toU8 : OpCode → UInt8
  | continuation => 0x0
  | text => 0x1
  | binary => 0x2
  | close => 0x8
  | ping => 0x9
  | pong => 0xA

/-- The variant's number in memory, which is not its value on the wire. -/
def discriminant : OpCode → UInt8
  | continuation => 0
  | text => 1
  | binary => 2
  | close => 3
  | ping => 4
  | pong => 5

/-- Reads a variant number back. Numbers above 5 name no variant. -/
def transmute (number : UInt8) (_ : number ≤ 5) : OpCode :=
  if number = 0 then continuation
  else if number = 1 then text
  else if number = 2 then binary
  else if number = 3 then close
  else if number = 4 then ping
  else pong

end OpCode

/-- A four-byte masking key. -/
structure Mask where
  first : UInt8
  second : UInt8
  third : UInt8
  fourth : UInt8
  deriving DecidableEq, Repr

/-- `mask[index & 3]`. -/
def Mask.get (mask : Mask) (index : Nat) : UInt8 :=
  match index % 4 with
  | 0 => mask.first
  | 1 => mask.second
  | 2 => mask.third
  | _ => mask.fourth

def Mask.bytes (mask : Mask) : Bytes :=
  [mask.first, mask.second, mask.third, mask.fourth]

structure Frame where
  fin : Bool
  opcode : OpCode
  isCompressed : Bool
  mask : Option Mask
  payload : Bytes
  deriving DecidableEq, Repr

/-- How many bytes the character starting with this byte takes, 0 if no
character starts with it. -/
def utf8Width (first : UInt8) : Nat :=
  if first ≤ 0x7F then 1
  else if 0xC2 ≤ first ∧ first ≤ 0xDF then 2
  else if 0xE0 ≤ first ∧ first ≤ 0xEF then 3
  else if 0xF0 ≤ first ∧ first ≤ 0xF4 then 4
  else 0

def utf8Trail (byte : UInt8) : Bool :=
  0x80 ≤ byte && byte ≤ 0xBF

/-- The second byte rules out overlong forms, surrogates and code points past
U+10FFFF. -/
def utf8Second (first second : UInt8) : Bool :=
  if first = 0xE0 then 0xA0 ≤ second && second ≤ 0xBF
  else if first = 0xED then 0x80 ≤ second && second ≤ 0x9F
  else if first = 0xF0 then 0x90 ≤ second && second ≤ 0xBF
  else if first = 0xF4 then 0x80 ≤ second && second ≤ 0x8F
  else utf8Trail second

/-- Whether the bytes are well-formed UTF-8. -/
def fromUtf8 : Bytes → Bool
  | [] => true
  | first :: rest =>
    match utf8Width first, rest with
    | 1, rest => fromUtf8 rest
    | 2, second :: rest => utf8Trail second && fromUtf8 rest
    | 3, second :: third :: rest => utf8Second first second && utf8Trail third && fromUtf8 rest
    | 4, second :: third :: fourth :: rest =>
      utf8Second first second && utf8Trail third && utf8Trail fourth && fromUtf8 rest
    | _, _ => false

namespace Frame

/-- The low-level constructor. -/
def new (fin : Bool) (opcode : OpCode) (mask : Option Mask) (payload : Bytes) : Frame :=
  { fin, opcode, isCompressed := false, mask, payload }

def text (payload : Bytes) : Frame := new true .text none payload

def binary (payload : Bytes) : Frame := new true .binary none payload

def ping (payload : Bytes) : Frame := new true .ping none payload

def pong (payload : Bytes) : Frame := new true .pong none payload

def continuation (payload : Bytes) : Frame := new true .continuation none payload

def withFin (frame : Frame) (fin : Bool) : Frame := { frame with fin }

def withMask (frame : Frame) (mask : Mask) : Frame := { frame with mask := some mask }

def closeRaw (payload : Bytes) : Frame := new true .close none payload

def close (code : CloseCode) (reason : Bytes) : Frame :=
  closeRaw (BigEndian.toBytes 2 code.toU16.toNat ++ reason)

def closeCode (frame : Frame) : Option CloseCode :=
  match frame.payload with
  | high :: low :: _ => some (.fromU16 (UInt16.ofNat (BigEndian.ofBytes [high, low])))
  | _ => none

def closeReason (frame : Frame) : Result (Option Bytes) :=
  if frame.payload.isEmpty then .ok none
  else if frame.payload.length < 2 then .error .invalidUTF8
  else if fromUtf8 (frame.payload.drop 2) then .ok (some (frame.payload.drop 2))
  else .error .invalidUTF8

/-- Only client frames get here without a mask of their own. -/
def setRandomMaskIfNotSet (frame : Frame) (random : Mask) : Frame :=
  match frame.mask with
  | none => { frame with mask := some random }
  | some _ => frame

end Frame

/-- The iterator behind `Frame.intoFragments`. -/
structure Split where
  index : Nat
  maxSize : Nat
  frame : Option Frame

def Split.next (self : Split) : Option (Frame × Split) :=
  match self.frame with
  | none => none
  | some frame =>
    if frame.payload.length ≤ self.maxSize then
      let last := if self.index ≠ 0 then { frame with fin := true, opcode := .continuation } else frame
      some (last, { self with frame := none })
    else
      let opcode := if self.index = 0 then frame.opcode else .continuation
      some (Frame.new false opcode frame.mask (frame.payload.take self.maxSize),
        { self with
          index := self.index + 1
          frame := some { frame with payload := frame.payload.drop self.maxSize } })

def Frame.intoFragments (frame : Frame) (partition : Nat) : Split :=
  { index := 0, maxSize := partition, frame := some frame }

/-- Runs the iterator to its end, or `none` if `fuel` steps do not reach it. -/
def Split.collect : Nat → Split → Option (List Frame)
  | 0, _ => none
  | fuel + 1, split =>
    match split.next with
    | none => some []
    | some (frame, split) => (split.collect fuel).map (frame :: ·)

end Yawc
