import Mathlib

/-! Connection errors and close codes. -/

namespace Yawc

abbrev Bytes := List UInt8

/-- The UTF-8 bytes of a text. -/
def textBytes (text : String) : Bytes :=
  text.toList.flatMap String.utf8EncodeChar

/-- The errors the codec, the connection and the handshake raise. -/
inductive WebSocketError where
  | invalidFragment
  | fragmentTimeout
  | invalidUTF8
  | invalidContinuationFrame
  | invalidStatusCode (status : UInt16)
  | redirected (statusCode : UInt16) (location : String)
  | invalidUpgradeHeader
  | invalidConnectionHeader
  | connectionClosed
  | invalidCloseFrame
  | invalidCloseCode
  | reservedBitsNotZero
  | controlFrameFragmented
  | pingFrameTooLarge
  | frameTooLarge
  | invalidSecWebsocketVersion
  | invalidOpCode (byte : UInt8)
  | missingSecWebSocketKey
  | compressionNotSupported
  | ioError (message : String)
  deriving DecidableEq, Repr

abbrev Result (Value : Type) := Except WebSocketError Value

/-- The text an error is displayed as. -/
def WebSocketError.toString : WebSocketError → String
  | invalidFragment => "Invalid fragment"
  | fragmentTimeout => "Fragmented message timed out"
  | invalidUTF8 => "Invalid UTF-8"
  | invalidContinuationFrame => "Invalid continuation frame"
  | invalidStatusCode status => "Invalid status code: " ++ ToString.toString status.toNat
  | redirected status location =>
    "Redirected with status code " ++ ToString.toString status.toNat ++ " to " ++ location
  | invalidUpgradeHeader => "Invalid upgrade header"
  | invalidConnectionHeader => "Invalid connection header"
  | connectionClosed => "Connection is closed"
  | invalidCloseFrame => "Invalid close frame"
  | invalidCloseCode => "Invalid close code"
  | reservedBitsNotZero => "Reserved bits are not zero"
  | controlFrameFragmented => "Control frame must not be fragmented"
  | pingFrameTooLarge => "Ping frame too large"
  | frameTooLarge => "Frame too large"
  | invalidSecWebsocketVersion => "Sec-Websocket-Version must be 13"
  | invalidOpCode byte => "Invalid opcode (byte=" ++ ToString.toString byte.toNat ++ ")"
  | missingSecWebSocketKey => "Sec-WebSocket-Key header is missing"
  | compressionNotSupported =>
    "Received compressed frame on stream that doesn't support compression"
  | ioError message => message

/-- Why an endpoint closes the connection. -/
inductive CloseCode where
  | normal
  | away
  | protocol
  | unsupported
  | status
  | abnormal
  | invalid
  | policy
  | size
  | extension
  | error
  | restart
  | again
  | tls
  | reserved (code : UInt16)
  | iana (code : UInt16)
  | library (code : UInt16)
  | bad (code : UInt16)
  deriving DecidableEq, Repr

namespace CloseCode

def isAllowed : CloseCode → Bool
  | bad _ | reserved _ | status | abnormal | tls => false
  | _ => true

def fromU16 (code : UInt16) : CloseCode :=
  if code = 1000 then normal
  else if code = 1001 then away
  else if code = 1002 then protocol
  else if code = 1003 then unsupported
  else if code = 1005 then status
  else if code = 1006 then abnormal
  else if code = 1007 then invalid
  else if code = 1008 then policy
  else if code = 1009 then size
  else if code = 1010 then extension
  else if code = 1011 then error
  else if code = 1012 then restart
  else if code = 1013 then again
  else if code = 1015 then tls
  else if 1 ≤ code ∧ code ≤ 999 then bad code
  else if 1016 ≤ code ∧ code ≤ 2999 then reserved code
  else if 3000 ≤ code ∧ code ≤ 3999 then iana code
  else if 4000 ≤ code ∧ code ≤ 4999 then library code
  else bad code

def toU16 : CloseCode → UInt16
  | normal => 1000
  | away => 1001
  | protocol => 1002
  | unsupported => 1003
  | status => 1005
  | abnormal => 1006
  | invalid => 1007
  | policy => 1008
  | size => 1009
  | extension => 1010
  | error => 1011
  | restart => 1012
  | again => 1013
  | tls => 1015
  | reserved code => code
  | iana code => code
  | library code => code
  | bad code => code

end CloseCode

/-- The code a connection closes with after a read error. -/
def WebSocketError.closeCode : WebSocketError → CloseCode
  | frameTooLarge => .size
  | invalidUTF8 => .invalid
  | invalidOpCode _ => .unsupported
  | reservedBitsNotZero | controlFrameFragmented | pingFrameTooLarge | invalidFragment
  | invalidCloseFrame | invalidCloseCode | fragmentTimeout | invalidContinuationFrame
  | compressionNotSupported => .protocol
  | _ => .error

end Yawc
