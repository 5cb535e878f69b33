import Yawc.Options
import Yawc.Codec

/-! Negotiation of permessage-deflate: the parameters, how they are written and
read, what a server answers, and the settings each side takes from the answer. -/

namespace Yawc

/-- The characters of a header value. -/
abbrev Text := List Char

def permessageDeflate : Text := "permessage-deflate".toList

/-- The outer option says whether the parameter is there, the inner whether it
has a value. -/
structure WebSocketExtensions where
  serverMaxWindowBits : Option (Option UInt8)
  clientMaxWindowBits : Option (Option UInt8)
  serverNoContextTakeover : Bool
  clientNoContextTakeover : Bool
  deriving DecidableEq, Repr

/-- `WINDOW_BITS`: the window sizes deflate accepts. -/
def clampWindow (bits : UInt8) : UInt8 := if bits < 9 then 9 else if 15 < bits then 15 else bits

/-- `NEGOTIABLE_WINDOW_BITS`: the window sizes an offer or a response may name. -/
def negotiable (bits : UInt8) : Bool := 8 ≤ bits && bits ≤ 15

def clampNegotiable (bits : UInt8) : UInt8 := if bits < 8 then 8 else if 15 < bits then 15 else bits

/-- A number as it is displayed. -/
def decimal (bits : UInt8) : Text := (Nat.repr bits.toNat).toList

/-- `str::parse::<u8>`: digits behind an optional plus sign, up to 255. -/
def parseU8 (text : Text) : Option UInt8 :=
  let digits := match text with
    | '+' :: rest => rest
    | text => text
  if digits.isEmpty ∨ ¬ digits.all Char.isDigit then none
  else
    let value := digits.foldl (fun value digit => 10 * value + (digit.toNat - '0'.toNat)) 0
    if value ≤ 255 then some (UInt8.ofNat value) else none

def isSpace (char : Char) : Bool := char = ' ' || char = '\t'

/-- A letter, digit or underscore. The source takes the letters and digits of
Unicode; the texts read here are header values, which are visible ASCII. -/
def isKeyChar (char : Char) : Bool := char.isAlphanum || char = '_'

/-- What holds of a fixed word is found letter by letter. -/
theorem every_char {rule : Char → Prop} [DecidablePred rule] {word : Text}
    (all : word.all fun char => decide (rule char)) : ∀ char ∈ word, rule char := by
  simpa using all

namespace WebSocketExtensions

def default : WebSocketExtensions where
  serverMaxWindowBits := none
  clientMaxWindowBits := none
  serverNoContextTakeover := false
  clientNoContextTakeover := false

/-- What a client offers. Only zlib can limit the window. -/
def ofOptions (backend : Backend) (value : DeflateOptions) : WebSocketExtensions where
  serverMaxWindowBits := match backend with
    | .zlib => value.serverMaxWindowBits.map some
    | .miniz => none
  clientMaxWindowBits := match backend with
    | .zlib => value.clientMaxWindowBits.map some
    | .miniz => none
  serverNoContextTakeover := value.serverNoContextTakeover
  clientNoContextTakeover := value.clientNoContextTakeover

/-- A window is written with its value only if the value may be named. -/
def displayWindow (key : Text) : Option (Option UInt8) → Text
  | some (some bits) =>
    if negotiable bits then "; ".toList ++ key ++ '=' :: decimal bits else "; ".toList ++ key
  | some none => "; ".toList ++ key
  | none => []

def displayFlag (key : Text) (flag : Bool) : Text :=
  if flag then "; ".toList ++ key else []

def display (self : WebSocketExtensions) : Text :=
  permessageDeflate ++
    displayWindow "server_max_window_bits".toList self.serverMaxWindowBits ++
    displayWindow "client_max_window_bits".toList self.clientMaxWindowBits ++
    displayFlag "server_no_context_takeover".toList self.serverNoContextTakeover ++
    displayFlag "client_no_context_takeover".toList self.clientNoContextTakeover

section FromStr

/-- `tag`: the rest behind a fixed text. -/
def tag (expected input : Text) : Option Text :=
  if expected.isPrefixOf input then some (input.drop expected.length) else none

/-- One parameter behind its semicolon, and the rest of the input. An equals
sign need not be followed by a number. -/
def parseExtension (input : Text) : Option ((Text × Option Text) × Text) :=
  match tag [';'] (input.dropWhile isSpace) with
  | none => none
  | some input =>
    let input := input.dropWhile isSpace
    let key := input.takeWhile isKeyChar
    if key.isEmpty then none
    else
      let input := input.dropWhile isKeyChar
      match tag ['='] (input.dropWhile isSpace) with
      | none => some ((key, none), input)
      | some value =>
        let value := value.dropWhile isSpace
        let digits := value.takeWhile Char.isDigit
        some ((key, if digits.isEmpty then none else some digits), value.dropWhile Char.isDigit)

def setParameter (self : WebSocketExtensions) (key : Text) (value : Option Text) :
    WebSocketExtensions :=
  if key = "client_no_context_takeover".toList then { self with clientNoContextTakeover := true }
  else if key = "server_no_context_takeover".toList then
    { self with serverNoContextTakeover := true }
  else if key = "server_max_window_bits".toList then
    { self with serverMaxWindowBits := some (value.bind parseU8) }
  else if key = "client_max_window_bits".toList then
    { self with clientMaxWindowBits := some (value.bind parseU8) }
  else self

/-- The parameter loop. Every parameter takes at least its semicolon, so the
input's length bounds the rounds. -/
def parseExtensions : Nat → WebSocketExtensions → Text → Option WebSocketExtensions
  | 0, _, _ => none
  | fuel + 1, self, input =>
    if input.isEmpty then some self
    else
      match parseExtension input with
      | none => none
      | some ((key, value), rest) => parseExtensions fuel (self.setParameter key value) rest

/-- `from_str`, without the text of its errors. -/
def fromStr (input : Text) : Option WebSocketExtensions :=
  match tag permessageDeflate input with
  | none => none
  | some rest => parseExtensions (rest.length + 1) default rest

end FromStr

end WebSocketExtensions

/-- The window an answer names: the smaller of what is offered and preferred,
9 if the offer leaves it open and there is no preference. -/
def mergeWindow (offered : Option UInt8) (preference : Option UInt8) : UInt8 :=
  match offered, preference with
  | some client, some server => min client server
  | some client, none => client
  | none, some server => server
  | none, none => 9

/-- The server's answer to an offer it can honor. -/
def DeflateOptions.merge (backend : Backend) (self : DeflateOptions)
    (offered : WebSocketExtensions) : WebSocketExtensions where
  clientNoContextTakeover := offered.clientNoContextTakeover || self.clientNoContextTakeover
  serverNoContextTakeover := offered.serverNoContextTakeover || self.serverNoContextTakeover
  clientMaxWindowBits := match backend with
    | .miniz => none
    | .zlib =>
      match offered.clientMaxWindowBits with
      | some window => some (some (mergeWindow window (self.clientMaxWindowBits.map clampNegotiable)))
      | none => none
  serverMaxWindowBits := match backend with
    | .miniz => offered.serverMaxWindowBits
    | .zlib =>
      match offered.serverMaxWindowBits with
      | some window => some (some (mergeWindow window (self.serverMaxWindowBits.map clampWindow)))
      | none => (self.serverMaxWindowBits.map clampWindow).map some

/-- The smallest window the server's compressor can keep to. -/
def smallestWindow : Backend → UInt8
  | .zlib => 9
  | .miniz => 15

/-- Whether an offer leaves the server a window it can use. -/
def WebSocketExtensions.usable (backend : Backend) (offer : WebSocketExtensions) : Bool :=
  match offer.serverMaxWindowBits with
  | some (some bits) => ¬ bits < smallestWindow backend
  | _ => true

def WebSocketExtensions.agree (backend : Backend) (server : Option DeflateOptions)
    (offers : List WebSocketExtensions) : Option WebSocketExtensions :=
  match server with
  | none => none
  | some server => (offers.find? (usable backend)).map (server.merge backend)

/-- Deflate settings for one direction. -/
structure HalfConfig where
  noContextTakeover : Bool
  windowBits : Option UInt8
  deriving DecidableEq, Repr

structure CompressionConfig where
  level : UInt32
  outgoing : HalfConfig
  incoming : HalfConfig
  deriving DecidableEq, Repr

/-- Each side compresses with its own settings and decompresses with the
peer's. -/
def CompressionConfig.resolve (extensions : Option WebSocketExtensions) (level : Option UInt32)
    (role : Role) : Result (Option CompressionConfig) :=
  match extensions, level with
  | none, _ => .ok none
  | some _, none => .error .compressionNotSupported
  | some extensions, some level =>
    let client : HalfConfig :=
      { noContextTakeover := extensions.clientNoContextTakeover
        windowBits := extensions.clientMaxWindowBits.join.map clampWindow }
    let server : HalfConfig :=
      { noContextTakeover := extensions.serverNoContextTakeover
        windowBits := extensions.serverMaxWindowBits.join.map clampWindow }
    match role with
    | .client => .ok (some { level, outgoing := client, incoming := server })
    | .server => .ok (some { level, outgoing := server, incoming := client })

/-- The window `Compressor::compress` and `Decompressor::decompress` build their
state with: flate2's own of 15 bits when none is set. -/
def HalfConfig.builtWindow (config : HalfConfig) : UInt8 := config.windowBits.getD 15

end Yawc
