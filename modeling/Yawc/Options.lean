import Yawc.Error

/-! Connection options, as far as the handshake and the connection read them. -/

namespace Yawc

/-- The deflate implementation a build of the library uses. -/
inductive Backend where
  | zlib
  | miniz
  deriving DecidableEq, Repr

/-- The cargo features the handshake depends on. -/
structure Features where
  backend : Backend
  http2 : Bool

/-- The window preferences exist only with zlib; other builds do not read them. -/
structure DeflateOptions where
  level : UInt32
  serverMaxWindowBits : Option UInt8
  clientMaxWindowBits : Option UInt8
  serverNoContextTakeover : Bool
  clientNoContextTakeover : Bool
  compressionThreshold : UInt64
  deriving DecidableEq

/-- Message fragmentation. The timeout is in the ticks of the connection's clock. -/
structure Fragmentation where
  timeout : Option Nat
  fragmentSize : Option UInt64
  deriving DecidableEq

structure Options where
  maxPayloadRead : Option UInt64
  maxReadBuffer : Option UInt64
  readBufferCapacity : Option UInt64
  writeBufferCapacity : Option UInt64
  compression : Option DeflateOptions
  fragmentation : Option Fragmentation
  checkUtf8 : Bool
  maxBackpressureWriteBoundary : Option UInt64
  deriving DecidableEq

/-- `Options::default`. -/
def Options.default : Options where
  maxPayloadRead := none
  maxReadBuffer := none
  readBufferCapacity := none
  writeBufferCapacity := none
  compression := none
  fragmentation := none
  checkUtf8 := false
  maxBackpressureWriteBoundary := none

/-- Sets the size of fragments. Any size is taken. -/
def Options.withMaxFragmentSize (self : Options) (size : UInt64) : Options :=
  let fragmentation := self.fragmentation.getD { timeout := none, fragmentSize := none }
  { self with fragmentation := some { fragmentation with fragmentSize := some size } }

/-- `DeflateOptions::default`, with flate2's default level. -/
def DeflateOptions.default : DeflateOptions where
  level := 6
  serverMaxWindowBits := none
  clientMaxWindowBits := none
  serverNoContextTakeover := false
  clientNoContextTakeover := false
  compressionThreshold := 0

end Yawc
