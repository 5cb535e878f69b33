import Yawc.Native.Handshake

/-! The command line client: its configuration, and the loop that connects and
follows redirects. -/

namespace Yawc.Yawcc

/-- The `url` crate, as far as it is used. A setter that fails leaves the URL as it
is. -/
structure Urls (Url Host : Type) where
  scheme : Url → Text
  username : Url → Text
  password : Url → Option Text
  host : Url → Option Host
  port : Url → Option UInt16
  portOrKnownDefault : Url → Option UInt16
  path : Url → Text
  query : Url → Option Text
  fragment : Url → Option Text
  /-- The part from `BeforePath` to `AfterQuery`. -/
  target : Url → Text
  join : Url → Text → Option Url
  setScheme : Url → Text → Url
  setUsername : Url → Text → Url
  setPassword : Url → Option Text → Url
  /-- A host as it is displayed. -/
  display : Host → Text

/-- What else is not the client's own: the types of the `http` crate, base64, percent
decoding and SHA-1. Errors come with their texts. -/
structure Crates where
  headerName : Text → Option HeaderName
  headerValue : Text → Except String Bytes
  toStrError : String
  uri : Text → Bool
  status : UInt16 → String
  encode : Bytes → Text
  percentDecode : Text → Option Text
  sha1 : Bytes → Bytes

/-- The arguments, without the deadline and the settings of TLS. -/
structure Args (Url : Type) where
  url : Url
  headers : List Text
  tcpHost : Option Text
  proxy : Option Url
  subprotocols : List Text
  origin : Option Text
  auth : Option Text
  host : Option Text
  cert : Option Text
  location : Bool
  maxRedirects : UInt64

structure Config (Url : Type) where
  args : Args Url
  headers : HeaderMap

section Text

/-- `char::is_whitespace`. -/
def isWhitespace (char : Char) : Bool :=
  (0x9 ≤ char.toNat && char.toNat ≤ 0xD) || char.toNat = 0x20 || char.toNat = 0x85 ||
    char.toNat = 0xA0 || char.toNat = 0x1680 || (0x2000 ≤ char.toNat && char.toNat ≤ 0x200A) ||
    char.toNat = 0x2028 || char.toNat = 0x2029 || char.toNat = 0x202F || char.toNat = 0x205F ||
    char.toNat = 0x3000

def trimStart (text : Text) : Text := text.dropWhile isWhitespace

def trim (text : Text) : Text := ((trimStart text).reverse.dropWhile isWhitespace).reverse

/-- `str::split_once` at a character. -/
def splitOnce (separator : Char) (text : Text) : Option (Text × Text) :=
  if text.contains separator then
    some (text.takeWhile (· ≠ separator), (text.dropWhile (· ≠ separator)).tail)
  else none

/-- `slice::join` with a comma. -/
def joinComma (texts : List Text) : Text := (texts.intersperse ", ".toList).flatten

/-- `is_token`, for the characters of a subprotocol. -/
def isToken (char : Char) : Bool :=
  char.isAlphanum || "!#$%&'*+-.^_`|~".toList.contains char

/-- `ensure!`. -/
def ensure (condition : Bool) (message : String) : Except String Unit :=
  if condition then .ok () else .error message

/-- `Option::context`. -/
def context {Value : Type} (value : Option Value) (message : String) : Except String Value :=
  match value with
  | some value => .ok value
  | none => .error message

end Text

section Urls

variable {Url Host : Type} (urls : Urls Url Host)

def validateUrl (url : Url) : Except String Unit := do
  ensure (urls.scheme url = "ws".toList || urls.scheme url = "wss".toList)
    "URL must use ws:// or wss://"
  ensure (urls.host url).isSome "URL must have a host"
  ensure (urls.fragment url).isNone "WebSocket URL must not contain a fragment"

def authority (url : Url) (explicitPort : Bool) : Text :=
  let host := ((urls.host url).map urls.display).getD []
  if explicitPort || (urls.port url).isSome then
    host ++ ':' :: (Nat.repr ((urls.portOrKnownDefault url).getD 0).toNat).toList
  else host

def origin (url : Url) : Text × Option Host × Option UInt16 :=
  (urls.scheme url, urls.host url, urls.portOrKnownDefault url)

def hasCredentials (url : Url) : Bool := !(urls.username url).isEmpty || (urls.password url).isSome

end Urls

section Config

variable {Url Host : Type} (urls : Urls Url Host) (crates : Crates)

def checkProxy : Option Url → Except String Unit
  | none => .ok ()
  | some proxy => do
    let scheme := urls.scheme proxy
    ensure (scheme = "http".toList || scheme = "https".toList || scheme = "socks5".toList ||
      scheme = "socks5h".toList) "unsupported proxy scheme"
    ensure (urls.host proxy).isSome "proxy must have a host"
    ensure ((urls.path proxy).isEmpty || urls.path proxy = ['/'])
      "proxy URL must not contain a path"
    ensure ((urls.query proxy).isNone && (urls.fragment proxy).isNone)
      "proxy URL must not contain a query or fragment"

/-- `HeaderName::as_str`. -/
def asStr : HeaderName → String
  | .host => "host"
  | .upgrade => "upgrade"
  | .connection => "connection"
  | .location => "location"
  | .secWebSocketKey => "sec-websocket-key"
  | .secWebSocketVersion => "sec-websocket-version"
  | .secWebSocketExtensions => "sec-websocket-extensions"
  | .secWebSocketAccept => "sec-websocket-accept"
  | .secWebSocketProtocol => "sec-websocket-protocol"
  | .other name => name

/-- One of the headers the user gives. -/
def addHeader (headers : HeaderMap) (raw : Text) : Except String HeaderMap := do
  let (key, value) ← context (splitOnce ':' raw) "header must have Key: Value format"
  let key ← context (crates.headerName (trim key)) "invalid header name"
  ensure (!"sec-websocket-".toList.isPrefixOf (asStr key).toList && key ≠ .connection &&
      key ≠ .upgrade && key ≠ .other "proxy-authorization")
    ("header " ++ asStr key ++ " is managed by yawcc; use its dedicated options")
  let value ← context (crates.headerValue (trimStart value)).toOption "invalid header value"
  return headers.append key value

def setHeader (name : HeaderName) (headers : HeaderMap) (value : Option Text) :
    Except String HeaderMap :=
  match value with
  | none => .ok headers
  | some value => do
    let value ← context (crates.headerValue value).toOption "invalid origin or host"
    return headers.insert name value

def decode (value : Text) : Except String Text :=
  context (crates.percentDecode value) "credentials are not UTF-8"

def insertAuthorization (headers : HeaderMap) (auth : Text) : Except String HeaderMap := do
  let value ← crates.headerValue ("Basic ".toList ++ crates.encode (asBytes auth))
  return headers.insert (.other "authorization") value

def addAuth (headers : HeaderMap) (auth : Option Text) : Except String HeaderMap :=
  match auth with
  | none => .ok headers
  | some auth => do
    ensure (auth.contains ':') "--auth must have username:password format"
    insertAuthorization crates headers auth

/-- The credentials of the URL become a header, and are taken out of it. -/
def takeCredentials (args : Args Url) (headers : HeaderMap) :
    Except String (Args Url × HeaderMap) := do
  if hasCredentials urls args.url then
    ensure (args.auth.isNone && !headers.containsKey (.other "authorization"))
      "specify authentication either in the URL or headers/--auth"
    let username ← decode crates (urls.username args.url)
    let password ← decode crates ((urls.password args.url).getD [])
    let headers ← insertAuthorization crates headers (username ++ ':' :: password)
    return ({ args with url := urls.setPassword (urls.setUsername args.url []) none }, headers)
  else return (args, headers)

/-- The subprotocols behind those already checked. -/
def checkSubprotocols : List Text → List Text → Except String Unit
  | _, [] => .ok ()
  | earlier, protocol :: rest => do
    ensure (!protocol.isEmpty && protocol.all isToken) "invalid WebSocket subprotocol"
    ensure (!earlier.contains protocol) "duplicate WebSocket subprotocol"
    checkSubprotocols (earlier ++ [protocol]) rest

def Config.new (args : Args Url) : Except String (Config Url) := do
  validateUrl urls args.url
  checkProxy urls args.proxy
  let headers ← args.headers.foldlM (addHeader crates) []
  let headers ← setHeader crates (.other "origin") headers args.origin
  let headers ← setHeader crates .host headers args.host
  let headers ← addAuth crates headers args.auth
  let (args, headers) ← takeCredentials urls crates args headers
  checkSubprotocols [] args.subprotocols
  return { args, headers }

end Config

section Upgrade

variable (crates : Crates)

def hasToken (headers : HeaderMap) (name : HeaderName) (token : Text) : Bool :=
  (((headers.getAll name).filterMap toStr).flatMap (splitAt ',')).any fun part =>
    eqIgnoreAsciiCase (trim part) token

/-- A value without its quotation marks, if it has both. -/
def unquote (value : Text) : Text :=
  match value with
  | '"' :: rest => if rest.getLast? = some '"' then rest.dropLast else value
  | _ => value

/-- One compression parameter, behind those already seen. -/
def readParameter (name : Text) (value : Option Text) : Except String Text := do
  if name = "client_no_context_takeover".toList || name = "server_no_context_takeover".toList then
    ensure value.isNone ("invalid compression parameter: " ++ String.ofList name)
    return "; ".toList ++ name
  else if name = "server_max_window_bits".toList then
    let value ← context value "server_max_window_bits requires a value"
    let bits ← context (parseU8 (unquote value)) "invalid compression window"
    ensure (8 ≤ bits && bits ≤ 15) "invalid compression window"
    return "; ".toList ++ name ++ '=' :: decimal bits
  else .error ("server returned an unoffered compression parameter: " ++ String.ofList name)

def readParameters : List Text → List Text → Except String Text
  | _, [] => .ok []
  | seen, part :: rest => do
    let (name, value) := match splitOnce '=' part with
      | some (name, value) => (trim name, some (trim value))
      | none => (part, none)
    ensure (!seen.contains name) ("duplicate compression parameter: " ++ String.ofList name)
    let written ← readParameter name value
    let more ← readParameters (name :: seen) rest
    return written ++ more

def parseExtensions (values : List Text) : Except String (Option Text) :=
  match values with
  | [] => .ok none
  | [value] =>
    match (splitAt ';' value).map trim with
    | name :: parts => do
      ensure (name = permessageDeflate) "server returned an unoffered extension"
      let written ← readParameters [] parts
      return some (permessageDeflate ++ written)
    | [] => .error "server returned an unoffered extension"
  | _ => .error "server returned multiple extensions"

def toStrOrFail (value : Bytes) : Except String Text := context (toStr value) crates.toStrError

/-- The answer to its key that the client expects. -/
def expectedAccept (key : Text) : Bytes :=
  asBytes (crates.encode
    (crates.sha1 (asBytes (key ++ "258EAFA5-E914-47DA-95CA-C5AB0DC85B11".toList))))

/-- The checks of an answer that is not followed, up to the extensions the socket is
built with. -/
def checkUpgrade (subprotocols : List Text) (key : Text) (response : Response) :
    Except String (Option Text) := do
  ensure (response.status = 101) ("WebSocket handshake returned HTTP " ++ crates.status response.status)
  let h := response.headers
  ensure (hasToken h .connection "upgrade".toList && hasToken h .upgrade "websocket".toList)
    "invalid WebSocket upgrade response"
  ensure ((h.getAll .secWebSocketAccept).length = 1 &&
      h.get .secWebSocketAccept = some (expectedAccept crates key))
    "invalid Sec-WebSocket-Accept response"
  let protocols := h.getAll .secWebSocketProtocol
  ensure (protocols.length ≤ 1) "server returned multiple subprotocols"
  match protocols.head? with
  | some value =>
    let selected ← toStrOrFail crates value
    ensure (subprotocols.contains selected) "server selected an unoffered subprotocol"
  | none => ensure subprotocols.isEmpty "server did not select an offered subprotocol"
  let values ← (h.getAll .secWebSocketExtensions).mapM (toStrOrFail crates)
  parseExtensions values

end Upgrade

section Connect

variable {Url Host : Type} [DecidableEq Host] (urls : Urls Url Host) (crates : Crates)

/-- The host of the URL, unless one is given. -/
def withHost (url : Url) (headers : HeaderMap) : Except String HeaderMap :=
  if headers.containsKey .host then .ok headers
  else do
    let value ← crates.headerValue (authority urls url false)
    return headers.insert .host value

def withProtocols (subprotocols : List Text) (headers : HeaderMap) : Except String HeaderMap :=
  if subprotocols.isEmpty then .ok headers
  else do
    let value ← crates.headerValue (joinComma subprotocols)
    return headers.insert .secWebSocketProtocol value

/-- The headers of a handshake request: those given, and those the client sets itself. -/
def handshakeHeaders (subprotocols : List Text) (url : Url) (headers : HeaderMap) (key : Text) :
    Except String HeaderMap := do
  ensure (crates.uri (urls.target url)) "invalid request"
  let h ← withHost urls crates url headers
  let h := h.insert .connection (textBytes "Upgrade")
  let h := h.insert .upgrade (textBytes "websocket")
  let h := h.insert .secWebSocketVersion (textBytes "13")
  let value ← crates.headerValue key
  let h := h.insert .secWebSocketKey value
  let h := h.insert .secWebSocketExtensions (textBytes "permessage-deflate")
  withProtocols crates subprotocols h

/-- The variables of the loop. -/
structure Hop (Url : Type) where
  url : Url
  headers : HeaderMap
  useOverride : Bool

/-- The schemes of the web stand for those of WebSocket. -/
def webSocketScheme (url : Url) : Url :=
  if urls.scheme url = "http".toList then urls.setScheme url "ws".toList
  else if urls.scheme url = "https".toList then urls.setScheme url "wss".toList
  else url

/-- What a redirect leads to. A new origin costs the headers and the override. -/
def follow (config : Config Url) (hop : Hop Url) (response : Response) :
    Except String (Hop Url) := do
  let location ← context (response.headers.get .location) "redirect has no Location header"
  let location ← toStrOrFail crates location
  let next ← context (urls.join hop.url location) "invalid redirect URL"
  let next := webSocketScheme urls next
  validateUrl urls next
  ensure (!hasCredentials urls next) "redirect URL must not contain credentials"
  ensure (urls.scheme hop.url ≠ "wss".toList || urls.scheme next = "wss".toList)
    "refusing redirect from WSS to WS"
  if origin urls hop.url ≠ origin urls next then
    ensure config.args.cert.isNone "refusing cross-origin redirect with a client certificate"
    return { url := next, headers := [], useOverride := false }
  else return { hop with url := next }

/-- What happens in one round of the loop, as far as it gets: whether the server could
be dialled, the key, and the response. -/
structure Round where
  dialled : Except String Unit
  key : Text
  response : Except String Response

/-- A server that was dialled, the address used instead of its own, and the headers of
the request, if it came to one. -/
structure Contact (Url : Type) where
  url : Url
  overrideAddress : Option Text
  request : Option HeaderMap

def isRedirect (status : UInt16) : Bool :=
  status = 301 || status = 302 || status = 303 || status = 307 || status = 308

/-- The address `dial` uses instead of the URL's. -/
def Config.overrideAddress (self : Config Url) (useOverride : Bool) : Option Text :=
  if useOverride then self.args.tcpHost else none

/-- The loop, with the rounds that are left and the number of the next. -/
def Config.rounds (self : Config Url) (world : Nat → Round) :
    Nat → Nat → Hop Url → List (Contact Url) × Except String (Option Text)
  | 0, _, _ => ([], .error "maximum redirects exceeded")
  | left + 1, number, hop =>
    let contact (request : Option HeaderMap) : Contact Url :=
      { url := hop.url, overrideAddress := self.overrideAddress hop.useOverride, request }
    match (world number).dialled with
    | .error error => ([contact none], .error error)
    | .ok () =>
      match handshakeHeaders urls crates self.args.subprotocols hop.url hop.headers
          (world number).key with
      | .error error => ([contact none], .error error)
      | .ok headers =>
        match (world number).response with
        | .error error => ([contact (some headers)], .error error)
        | .ok response =>
          if isRedirect response.status && self.args.location then
            if number < self.args.maxRedirects.toNat then
              match follow urls crates self hop response with
              | .error error => ([contact (some headers)], .error error)
              | .ok next =>
                let (later, outcome) := self.rounds world left (number + 1) next
                (contact (some headers) :: later, outcome)
            else ([contact (some headers)], .error "maximum redirects exceeded")
          else ([contact (some headers)],
            checkUpgrade crates self.args.subprotocols (world number).key response)

end Connect

end Yawc.Yawcc
