import Yawc.Compression.Wire

/-! The HTTP/1.1 handshake: the client's request, the server's response, and the
settings each side takes from it. -/

namespace Yawc

/-- Header names are compared without case, so one constructor stands for all
spellings of a name. -/
inductive HeaderName where
  | host
  | upgrade
  | connection
  | location
  | secWebSocketKey
  | secWebSocketVersion
  | secWebSocketExtensions
  | secWebSocketAccept
  | secWebSocketProtocol
  | other (name : String)
  deriving DecidableEq

def HeaderName.isSecWebSocket : HeaderName → Bool
  | secWebSocketKey | secWebSocketVersion | secWebSocketExtensions | secWebSocketAccept
  | secWebSocketProtocol => true
  | _ => false

/-- Header lines in order. -/
abbrev HeaderMap := List (HeaderName × Bytes)

namespace HeaderMap

def getAll (headers : HeaderMap) (name : HeaderName) : List Bytes :=
  (headers.filter (·.1 = name)).map (·.2)

/-- The first value of a header. -/
def get (headers : HeaderMap) (name : HeaderName) : Option Bytes := (headers.getAll name).head?

def containsKey (headers : HeaderMap) (name : HeaderName) : Bool := (headers.get name).isSome

def append (headers : HeaderMap) (name : HeaderName) (value : Bytes) : HeaderMap :=
  headers ++ [(name, value)]

/-- Replaces every value of a header by one. -/
def insert (headers : HeaderMap) (name : HeaderName) (value : Bytes) : HeaderMap :=
  headers.filter (·.1 ≠ name) ++ [(name, value)]

end HeaderMap

def isVisible (byte : UInt8) : Bool := (32 ≤ byte && byte < 127) || byte = 9

/-- `HeaderValue::to_str`: the text of a value of visible ASCII characters. -/
def toStr (value : Bytes) : Option Text :=
  if value.all isVisible then some (value.map fun byte => Char.ofNat byte.toNat) else none

/-- The bytes of a text. -/
def asBytes (text : Text) : Bytes := text.flatMap String.utf8EncodeChar

def eqIgnoreAsciiCase (first second : Text) : Bool :=
  first.map Char.toLower = second.map Char.toLower

/-- `str::split` at a character. -/
def splitAt (separator : Char) : Text → List Text
  | [] => [[]]
  | char :: text =>
    if char = separator then [] :: splitAt separator text
    else
      match splitAt separator text with
      | [] => [[char]]
      | first :: more => (char :: first) :: more

/-- `trim_matches` of spaces and tabs. -/
def trimSpace (text : Text) : Text :=
  ((text.dropWhile isSpace).reverse.dropWhile isSpace).reverse

inductive Method where
  | get
  | connect
  | other (name : String)
  deriving DecidableEq

/-- A request, with the `:protocol` of an extended CONNECT. -/
structure Request where
  method : Method
  protocol : Option String
  headers : HeaderMap

structure Response where
  status : UInt16
  headers : HeaderMap

/-- The settings a connection runs with. -/
structure Negotiation where
  compression : Option CompressionConfig
  maxPayloadRead : UInt64
  maxReadBuffer : UInt64
  readBufferCapacity : Option UInt64
  writeBufferCapacity : Option UInt64
  utf8 : Bool
  fragmentation : Option Fragmentation
  maxBackpressureWriteBoundary : Option UInt64
  compressionThreshold : UInt64
  deriving DecidableEq

/-- The product wraps, as in a release build. -/
def Negotiation.new (extensions : Option WebSocketExtensions) (options : Options) (role : Role) :
    Result Negotiation :=
  match CompressionConfig.resolve extensions (options.compression.map (·.level)) role with
  | .error error => .error error
  | .ok compression =>
    .ok {
      compression
      maxPayloadRead := options.maxPayloadRead.getD (1024 * 1024)
      maxReadBuffer := options.maxReadBuffer.getD
        ((options.maxPayloadRead.map (· * 2)).getD (2 * 1024 * 1024))
      readBufferCapacity := options.readBufferCapacity
      writeBufferCapacity := options.writeBufferCapacity
      utf8 := options.checkUtf8
      fragmentation := options.fragmentation
      maxBackpressureWriteBoundary := options.maxBackpressureWriteBoundary
      compressionThreshold := (options.compression.map (·.compressionThreshold)).getD 0 }

/-- The request `http1_upgrade` sends. The builder holds the caller's headers;
the host is only filled in if they have none. -/
def http1Request (features : Features) (host key : Bytes) (options : Options)
    (builder : HeaderMap) : Request :=
  let builder := if builder.containsKey .host then builder else builder.append .host host
  let headers := builder
    |>.append .upgrade (textBytes "websocket")
    |>.append .connection (textBytes "upgrade")
    |>.append .secWebSocketKey key
    |>.append .secWebSocketVersion (textBytes "13")
  { method := .get
    protocol := none
    headers := match options.compression with
      | some compression => headers.insert .secWebSocketExtensions
          (asBytes (WebSocketExtensions.ofOptions features.backend compression).display)
      | none => headers }

/-- `sec_websocket_protocol`, over SHA-1 and base64. -/
def secWebsocketProtocol (sha1 : Bytes → Bytes) (base64 : Bytes → Text) (key : Bytes) : Bytes :=
  asBytes (base64 (sha1 (key ++ textBytes "258EAFA5-E914-47DA-95CA-C5AB0DC85B11")))

section Server

-- `accept` is the `sec_websocket_protocol` of a key.
variable (features : Features) (accept : Bytes → Bytes)

def isExtendedConnect (request : Request) : Bool :=
  features.http2 && request.method = .connect && request.protocol = some "websocket"

def handshakeResponse (request : Request) : Result Response :=
  if isExtendedConnect features request then .ok { status := 200, headers := [] }
  else
    match request.headers.get .secWebSocketKey with
    | none => .error .missingSecWebSocketKey
    | some key =>
      .ok {
        status := 101
        headers := [(.connection, textBytes "upgrade"), (.upgrade, textBytes "websocket"),
          (.secWebSocketAccept, accept key)] }

def upgradeWithOptions (request : Request) (options : Options) : Result (Response × Negotiation) :=
  match handshakeResponse features accept request with
  | .error error => .error error
  | .ok response =>
    if request.headers.get .secWebSocketVersion ≠ some (textBytes "13") then
      .error .invalidSecWebsocketVersion
    else
      let offers := Offer.offers ((request.headers.getAll .secWebSocketExtensions).map toStr)
      let extensions := WebSocketExtensions.agree features.backend options.compression offers
      let headers := match extensions with
        | some answer => response.headers.append .secWebSocketExtensions (asBytes answer.display)
        | none => response.headers
      match Negotiation.new extensions options .server with
      | .error error => .error error
      | .ok negotiation => .ok ({ response with headers }, negotiation)

end Server

section Client

variable (accept : Bytes → Bytes)

def connectionListsUpgrade (headers : HeaderMap) : Bool :=
  ((headers.getAll .connection).filterMap toStr).any fun value =>
    (splitAt ',' value).any fun option => eqIgnoreAsciiCase (trimSpace option) "upgrade".toList

def verifyAccept (value : Option Bytes) (key : Bytes) : Result Unit :=
  if value = some (accept key) then .ok () else .error .invalidUpgradeHeader

def WebSocketExtensions.fromHeaders (headers : HeaderMap) : Option WebSocketExtensions :=
  ((headers.get .secWebSocketExtensions).bind toStr).bind fromStr

def verifyUpgrade (response : Response) (key : Bytes) (options : Options) : Result Negotiation :=
  if response.status ≠ 101 then .error (.invalidStatusCode response.status)
  else if ¬ ((response.headers.get .upgrade).bind toStr).any
      (eqIgnoreAsciiCase · "websocket".toList) then
    .error .invalidUpgradeHeader
  else if ¬ connectionListsUpgrade response.headers then .error .invalidConnectionHeader
  else
    match verifyAccept accept (response.headers.get .secWebSocketAccept) key with
    | .error error => .error error
    | .ok () => Negotiation.new (WebSocketExtensions.fromHeaders response.headers) options .client

/-- Redirects are reported before anything else is checked. -/
def verify (response : Response) (key : Bytes) (options : Options) : Result Negotiation :=
  if 300 ≤ response.status ∧ response.status < 400 then
    let location := ((response.headers.get .location).bind toStr).getD []
    .error (.redirected response.status (String.ofList location))
  else verifyUpgrade accept response key options

end Client

end Yawc
