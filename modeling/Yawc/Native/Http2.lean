import Yawc.Native.Handshake
import Yawc.Native.Socks5

/-! The other ways to a connection: the extended CONNECT of HTTP/2 on one side,
the extractor for axum on the other. -/

namespace Yawc

open Socks5 (Host)

/-- The schemes of a URL that always has a host. -/
def isWeb (scheme : Text) : Bool :=
  scheme = "ws".toList || scheme = "wss".toList || scheme = "http".toList ||
    scheme = "https".toList

/-- A parsed URL. `path` is the part from `BeforePath` on. -/
structure Url where
  scheme : Text
  host : Option Host
  port : Option UInt16
  path : Text
  hosted : isWeb scheme → host.isSome

namespace Url

/-- `url.host().expect("hostname")`, where the URL has a host. -/
def hostname (self : Url) : Host := self.host.getD (.domain [])

/-- `port_or_known_default`. -/
def portOrKnownDefault (self : Url) : Option UInt16 :=
  match self.port with
  | some port => some port
  | none =>
    if self.scheme = "ws".toList || self.scheme = "http".toList then some 80
    else if self.scheme = "wss".toList || self.scheme = "https".toList then some 443
    else if self.scheme = "ftp".toList then some 21
    else none

end Url

/-- What is wrong before a request can be sent, apart from the handshake. -/
inductive ConnectError where
  | invalidHttpScheme
  | tlsDisabled
  | missingTlsConnector
  | extendedConnectNotSupported
  | socks5 (error : Socks5.Socks5Error)
  | io (message : String)
  | http (message : String)
  | handshake (error : WebSocketError)
  deriving DecidableEq

/-- `is_handshake_error`: the peer answered, but not with a WebSocket. -/
def ConnectError.isHandshakeError : ConnectError → Bool
  | extendedConnectNotSupported | invalidHttpScheme => true
  | handshake (.invalidStatusCode _) | handshake (.redirected _ _)
  | handshake .invalidUpgradeHeader | handshake .invalidConnectionHeader
  | handshake .invalidSecWebsocketVersion | handshake .missingSecWebSocketKey => true
  | _ => false

inductive HttpVersion where
  | http1
  | http2
  deriving DecidableEq

section Client

-- `display` writes a host, an IPv6 address in brackets.
variable (features : Features) (display : Host → Text)

/-- The host and the port if the URL names one. -/
def Url.authority (self : Url) : Text :=
  match self.port with
  | some port => display self.hostname ++ ':' :: (Nat.repr port.toNat).toList
  | none => display self.hostname

/-- The `Host` header of a request over HTTP/1.1. There is none for a URL without a
host or a known port: `expect` panics. -/
def Url.hostHeader (self : Url) : Option Text := do
  let host ← self.host
  let port ← self.portOrKnownDefault
  if self.port.isSome then
    return display host ++ ':' :: (Nat.repr port.toNat).toList
  else return display host

/-- The request of `http1_upgrade`, unless it panics. A host of the caller's is sent
as it is. -/
def Url.http1Request (self : Url) (key : Bytes) (options : Options) (builder : HeaderMap) :
    Option Request :=
  if builder.containsKey .host then
    some (Yawc.http1Request features [] key options builder)
  else do
    let host ← self.hostHeader display
    return Yawc.http1Request features (asBytes host) key options builder

/-- The URL, or the caller in its place, names what the `Host` header is made of. -/
def Url.Addressed (self : Url) (builder : HeaderMap) : Prop :=
  builder.containsKey .host ∨ (self.host.isSome ∧ self.portOrKnownDefault.isSome)

private theorem Url.portOrKnownDefault_isSome {self : Url} (web : isWeb self.scheme) :
    self.portOrKnownDefault.isSome := by
  unfold portOrKnownDefault
  cases self.port with
  | some port => rfl
  | none =>
    simp only [isWeb, Bool.or_eq_true, decide_eq_true_eq] at web
    rcases web with ((ws | wss) | http) | https
    · simp [ws]
    · simp [wss]
    · simp [http]
    · simp [https]

private theorem Url.hostHeader_eq {self : Url} (web : isWeb self.scheme) :
    self.hostHeader display = some (self.authority display) := by
  obtain ⟨host, hosted⟩ := Option.isSome_iff_exists.mp (self.hosted web)
  obtain ⟨port, known⟩ := Option.isSome_iff_exists.mp (portOrKnownDefault_isSome web)
  unfold hostHeader authority hostname
  rw [hosted, known]
  cases given : self.port with
  | none => rfl
  | some own =>
    obtain rfl : own = port := by simpa [portOrKnownDefault, given] using known
    rfl

private theorem http1Request_contains {builder : HeaderMap} (given : builder.containsKey .host)
    (host other key : Bytes) (options : Options) :
    Yawc.http1Request features host key options builder =
      Yawc.http1Request features other key options builder := by
  simp only [Yawc.http1Request, given, ↓reduceIte]

/-- For a web URL the request is there. -/
theorem Url.http1Request_eq {self : Url} (web : isWeb self.scheme) (key : Bytes)
    (options : Options) (builder : HeaderMap) :
    self.http1Request features display key options builder =
      some (Yawc.http1Request features (asBytes (self.authority display)) key options builder) := by
  unfold http1Request
  split
  · rename_i given
    exact congrArg some (http1Request_contains features given ..)
  · rw [hostHeader_eq display web]
    rfl

private theorem Url.hostHeader_isSome (self : Url) :
    (self.hostHeader display).isSome ↔ self.host.isSome ∧ self.portOrKnownDefault.isSome := by
  unfold hostHeader
  cases self.host with
  | none => simp
  | some host =>
    cases self.portOrKnownDefault with
    | none => simp
    | some port => cases self.port <;> simp

/-- For the others it takes what the `Host` header is made of. -/
theorem Url.http1Request_isSome (self : Url) (key : Bytes) (options : Options)
    (builder : HeaderMap) :
    (self.http1Request features display key options builder).isSome ↔ self.Addressed builder := by
  unfold http1Request Addressed
  by_cases given : builder.containsKey .host
  · simp [given]
  · rw [if_neg given, ← hostHeader_isSome display]
    cases self.hostHeader display with
    | none => simp [given]
    | some host => simp

theorem Url.http1Request_some {self : Url} {key : Bytes} {options : Options} {builder : HeaderMap}
    {request : Request} (built : self.http1Request features display key options builder = some request) :
    ∃ host, request = Yawc.http1Request features host key options builder := by
  unfold http1Request at built
  split at built
  · exact ⟨[], (Option.some.inj built).symm⟩
  · cases header : self.hostHeader display with
    | none => simp [header] at built
    | some host => exact ⟨asBytes host, by simpa [header] using built.symm⟩

namespace Http2

def scheme (url : Url) : Except ConnectError Text :=
  if url.scheme = "ws".toList || url.scheme = "http".toList then .ok "http".toList
  else if url.scheme = "wss".toList || url.scheme = "https".toList then .ok "https".toList
  else .error .invalidHttpScheme

/-- The URI and the request. The version replaces one of the caller. -/
def buildRequest (url : Url) (options : Options) (builder : HeaderMap) :
    Except ConnectError (Text × Request) := do
  let scheme ← scheme url
  let uri := scheme ++ "://".toList ++ url.authority display ++ url.path
  let headers := builder.insert .secWebSocketVersion (textBytes "13")
  let headers := match options.compression with
    | some compression => headers.insert .secWebSocketExtensions
        (asBytes (WebSocketExtensions.ofOptions features.backend compression).display)
    | none => headers
  return (uri, { method := .connect, protocol := some "websocket", headers })

def verify (response : Response) (options : Options) : Result Negotiation :=
  if response.status ≠ 200 then .error (.invalidStatusCode response.status)
  else Negotiation.new (WebSocketExtensions.fromHeaders response.headers) options .client

end Http2

end Client

/-- What the extractor keeps of a request: the value to accept with, which an
extended CONNECT has none of, and the offers. -/
structure IncomingUpgrade where
  key : Option Bytes
  offers : List WebSocketExtensions

namespace IncomingUpgrade

variable (features : Features) (accept : Bytes → Bytes)

def keyOf (request : Request) : Except UInt16 (Option Bytes) :=
  if isExtendedConnect features request then .ok none
  else
    match request.headers.get .secWebSocketKey with
    | none => .error 400
    | some key => .ok (some (accept key))

/-- `onUpgrade` says whether hyper left its upgrade with the request. -/
def fromRequestParts (request : Request) (onUpgrade : Bool) : Except UInt16 IncomingUpgrade := do
  let key ← keyOf features accept request
  if request.headers.get .secWebSocketVersion ≠ some (textBytes "13") then throw 400
  let offers := Offer.offers ((request.headers.getAll .secWebSocketExtensions).map toStr)
  if onUpgrade then return { key, offers } else throw 400

def response (key : Option Bytes) : Response :=
  match key with
  | some key =>
    { status := 101
      headers := [(.connection, textBytes "upgrade"), (.upgrade, textBytes "websocket"),
        (.secWebSocketAccept, key)] }
  | none => { status := 200, headers := [] }

def upgrade (self : IncomingUpgrade) (options : Options) : Result (Response × Negotiation) :=
  let response := response self.key
  let extensions := WebSocketExtensions.agree features.backend options.compression self.offers
  let headers := match extensions with
    | some offer => response.headers.append .secWebSocketExtensions (asBytes offer.display)
    | none => response.headers
  match Negotiation.new extensions options .server with
  | .error error => .error error
  | .ok negotiation => .ok ({ response with headers }, negotiation)

end IncomingUpgrade

end Yawc
