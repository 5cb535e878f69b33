import Yawc.Library.Interaction
import Yawc.Native.Http2

/-! Establishing a connection: the socket, directly or through a proxy, TLS, and
the handshake, as the actions they take. -/

namespace Yawc

open Socks5 (Host Octets Proxy Target)

section Addresses

inductive IpAddr where
  | v4 (octets : Octets 4)
  | v6 (octets : Octets 16)
  deriving DecidableEq

def IpAddr.isIpv4 : IpAddr → Bool
  | v4 _ => true
  | v6 _ => false

structure SocketAddr where
  ip : IpAddr
  port : UInt16
  deriving DecidableEq

/-- What a socket can be asked to connect to. A name is resolved on the way. -/
inductive Endpoint where
  | domain (name : Text) (port : UInt16)
  | addr (address : SocketAddr)
  deriving DecidableEq

def Endpoint.of (host : Host) (port : UInt16) : Endpoint :=
  match host with
  | .domain name => domain name port
  | .ipv4 octets => addr { ip := .v4 octets, port }
  | .ipv6 octets => addr { ip := .v6 octets, port }

def SocketAddr.target (self : SocketAddr) : Target :=
  match self.ip with
  | .v4 octets => .v4 octets self.port
  | .v6 octets => .v6 octets self.port

end Addresses

/-- Why an HTTP/2 stream was reset. -/
inductive Reason where
  | protocolError
  | other (code : UInt32)
  deriving DecidableEq

/-- An error of hyper with its causes, as far as they are looked at: for errors of
HTTP/2 their reason, if they have one. -/
structure HyperError where
  message : String
  causes : List (Option Reason)

/-- What the outside is asked for. A socket that is bound is opened and bound before it
connects, and everything behind it runs over the last connection that was made. -/
inductive Net where
  | lookup (name : Text) (port : UInt16)
  | connect (endpoint : Endpoint)
  | socket (ipv4 : Bool)
  | bind (address : IpAddr)
  | connectFrom (address : IpAddr) (remote : SocketAddr)
  | tunnel (proxy : Proxy) (target : Target)
  | tls (serverName : Text) (alpn : List Bytes)
  | random
  | http (version : HttpVersion)
  | send (uri : Text) (request : Request)
  | upgrade

/-- A tunnel is answered by all that the proxy sends. -/
def Net.Reply : Net → Type
  | lookup _ _ => Except String (List SocketAddr)
  | connect _ | socket _ | bind _ | connectFrom _ _ | tls _ _ | http _ => Except String Unit
  | tunnel _ _ => Except String Bytes
  | random => Bytes
  | send _ _ => Except HyperError Response
  | upgrade => Except HyperError Unit

abbrev Connecting := Interaction.Attempt Net Net.Reply ConnectError

/-- How a build of the library can do TLS: not at all, only with a connector it is
given, or with one of its own. -/
inductive TlsSupport where
  | disabled
  | connectorOnly
  | provider
  deriving DecidableEq

/-- The build, and what is used of other crates: hosts as they are written, the names
TLS accepts, and the value that answers a key. -/
structure Build where
  features : Features
  tls : TlsSupport
  display : Host → Text
  serverName : Text → Bool
  accept : Bytes → Bytes

/-- `WsBuilderOpts`. A connector of the caller has its own ALPN protocols. -/
structure BuilderOpts where
  url : Url
  tcpAddress : Option SocketAddr
  localAddress : Option IpAddr
  connector : Option (List Bytes)
  proxy : Option Proxy
  establishOptions : Option Options
  httpBuilder : Option HeaderMap
  version : HttpVersion

section Actions

open Interaction (attempt)

def ioResult {Value : Type} (reply : Except String Value) : Except ConnectError Value :=
  reply.mapError .io

def lookup (name : Text) (port : UInt16) : Connecting (List SocketAddr) :=
  attempt (.lookup name port) ioResult

def connectEndpoint (endpoint : Endpoint) : Connecting Unit := attempt (.connect endpoint) ioResult

def openSocket (ipv4 : Bool) : Connecting Unit := attempt (.socket ipv4) ioResult

def bindSocket (address : IpAddr) : Connecting Unit := attempt (.bind address) ioResult

/-- The outcome of an attempt to connect, which may be followed by another. -/
def connectFrom (address : IpAddr) (remote : SocketAddr) : Connecting (Except String Unit) :=
  attempt (.connectFrom address remote) Except.ok

/-- The dialogue of SOCKS5, with what the proxy sends. -/
def openTunnel (proxy : Proxy) (target : Target) : Connecting Unit :=
  attempt (.tunnel proxy target) fun (reply : Except String Bytes) =>
    match reply with
    | .error error => .error (.io error)
    | .ok stream => (Socks5.connect proxy target ⟨stream, []⟩).1.mapError .socks5

def generateKey : Connecting Bytes := attempt .random Except.ok

def startHttp (version : HttpVersion) : Connecting Unit :=
  attempt (.http version) fun (reply : Except String Unit) => reply.mapError .http

def sendRequest (named : HyperError → ConnectError) (uri : Text) (request : Request) :
    Connecting Response :=
  attempt (.send uri request) fun (reply : Except HyperError Response) => reply.mapError named

def finishUpgrade (named : HyperError → ConnectError) : Connecting Unit :=
  attempt .upgrade fun (reply : Except HyperError Unit) => reply.mapError named

end Actions

section Dialling

/-- `lookup_host`, which has nothing to look up for an address. -/
def lookupHost : Endpoint → Connecting (List SocketAddr)
  | .domain name port => lookup name port
  | .addr address => return [address]

def noAddress : String := "no address of the local address's kind"

/-- The addresses in turn, with the error of the last one tried. -/
def tryAddresses (address : IpAddr) : List SocketAddr → String → Connecting Unit
  | [], error => throw (.io error)
  | remote :: rest, _ => do
    openSocket address.isIpv4
    bindSocket address
    match ← connectFrom address remote with
    | .ok () => return ()
    | .error error => tryAddresses address rest error

def connectTcp (localAddress : Option IpAddr) (target : Endpoint) : Connecting Unit :=
  match localAddress with
  | none => connectEndpoint target
  | some address => do
    let remotes ← lookupHost target
    tryAddresses address (remotes.filter (·.ip.isIpv4 = address.isIpv4)) noAddress

/-- Whom the proxy is asked for. Without remote DNS a name is resolved here. -/
def proxyTarget (proxy : Proxy) (url : Url) (pinned : Option SocketAddr) : Connecting Target :=
  match pinned with
  | some address => return address.target
  | none =>
    let port := url.portOrKnownDefault.getD 0
    match url.hostname with
    | .ipv4 octets => return .v4 octets port
    | .ipv6 octets => return .v6 octets port
    | .domain name =>
      if proxy.remoteDns then return .domain name port
      else do
        match (← lookup name port) with
        | first :: _ => return first.target
        | [] => throw (.io "no address for host")

def dialProxy (proxy : Proxy) (localAddress : Option IpAddr) : Connecting Unit :=
  connectTcp localAddress (.of proxy.host proxy.port)

/-- `Proxy::connect_from`. -/
def connectThrough (proxy : Proxy) (url : Url) (address : Option SocketAddr)
    (localAddress : Option IpAddr) : Connecting Unit :=
  if ¬ isWeb url.scheme then throw .invalidHttpScheme
  else if url.host.isNone then throw (.io "target URL has no host")
  else do
    let target ← proxyTarget proxy url address
    dialProxy proxy localAddress
    openTunnel proxy target

def dial (opts : BuilderOpts) : Connecting Unit :=
  match opts.proxy with
  | some proxy => connectThrough proxy opts.url opts.tcpAddress opts.localAddress
  | none =>
    match opts.tcpAddress with
    | some address => connectTcp opts.localAddress (.addr address)
    | none =>
      connectTcp opts.localAddress
        (.of opts.url.hostname (opts.url.portOrKnownDefault.getD 0))

end Dialling

section Securing

def alpnFor : HttpVersion → List Bytes
  | .http1 => [textBytes "http/1.1"]
  | .http2 => [textBytes "h2"]

/-- Whether the connection is to be secured. -/
def isSecure (url : Url) : Except ConnectError Bool :=
  if url.scheme = "ws".toList then .ok false
  else if url.scheme = "wss".toList then .ok true
  else .error .invalidHttpScheme

/-- The ALPN protocols of the connector, if there has to be one. -/
def connectorFor (tls : TlsSupport) (opts : BuilderOpts) (secure : Bool) :
    Except ConnectError (Option (List Bytes)) :=
  if secure then
    match tls, opts.connector with
    | .disabled, _ => .error .tlsDisabled
    | _, some alpn => .ok (some alpn)
    | .provider, none => .ok (some (alpnFor opts.version))
    | .connectorOnly, none => .error .missingTlsConnector
  else .ok none

def startTls (build : Build) (url : Url) (alpn : List Bytes) : Connecting Unit :=
  let host := build.display url.hostname
  if build.serverName host then Interaction.attempt (.tls host alpn) ioResult
  else throw (.io "invalid dnsname")

/-- The stream the handshake runs over, in TLS if there is a connector. -/
def connectStream (build : Build) (opts : BuilderOpts) : Connecting Unit := do
  let secure ← Interaction.lift (isSecure opts.url)
  let connector ← Interaction.lift (connectorFor build.tls opts secure)
  dial opts
  match connector with
  | some alpn => startTls build opts.url alpn
  | none => return ()

end Securing

section Handshake

def httpError (error : HyperError) : ConnectError := .http error.message

/-- A stream that was reset for a protocol error tells of a peer without extended
CONNECT. -/
def connectError (error : HyperError) : ConnectError :=
  if error.causes.contains (some .protocolError) then .extendedConnectNotSupported
  else httpError error

/-- What a response settles. -/
def settle (verified : Result Negotiation) : Connecting Negotiation :=
  Interaction.lift (verified.mapError .handshake)

def http1Upgrade (build : Build) (url : Url) (options : Options) (builder : HeaderMap) :
    Connecting Negotiation := do
  let key ← generateKey
  let host := asBytes (url.authority build.display)
  startHttp .http1
  let response ← sendRequest httpError url.path (http1Request build.features host key options builder)
  let negotiated ← settle (verify build.accept response key options)
  finishUpgrade httpError
  return negotiated

def Http2.handshake (build : Build) (url : Url) (options : Options) (builder : HeaderMap) :
    Connecting Negotiation := do
  let (uri, request) ← Interaction.lift (buildRequest build.features build.display url options builder)
  startHttp .http2
  let response ← sendRequest connectError uri request
  let negotiated ← settle (verify response options)
  finishUpgrade connectError
  return negotiated

/-- `connect_versioned`; `connect_priv` is the case of HTTP/1.1. -/
def connectVersioned (build : Build) (opts : BuilderOpts) : Connecting Negotiation := do
  let options := opts.establishOptions.getD .default
  let builder := opts.httpBuilder.getD []
  connectStream build opts
  match opts.version with
  | .http2 => Http2.handshake build opts.url options builder
  | .http1 => http1Upgrade build opts.url options builder

end Handshake

end Yawc
