import Yawc.Compression.Extensions

/-! The strict reader for a client's offers. -/

namespace Yawc

/-- Whether the character may appear in a token. -/
def isTchar (char : Char) : Bool :=
  char.isAlphanum || "!#$%&'*+-.^_`|~".toList.contains char

namespace Offer

/-- An extension named in the header, with its parameters in order. -/
structure Extension where
  name : Text
  params : List (Text × Option Text)
  deriving DecidableEq

def skipWhitespace (input : Text) : Text := input.dropWhile isSpace

/-- The rest of the input behind the character, if it starts with it. -/
def eat (char : Char) : Text → Option Text
  | first :: rest => if first = char then some rest else none
  | [] => none

def token (input : Text) : Option (Text × Text) :=
  let word := input.takeWhile isTchar
  if word.isEmpty then none else some (word, input.dropWhile isTchar)

/-- The rest of a quoted string, whose unescaped text has to be a token. -/
def quoted (value : Text) : Text → Option (Text × Text)
  | [] => none
  | '"' :: rest => if ¬ value.isEmpty ∧ value.all isTchar then some (value, rest) else none
  | '\\' :: char :: rest => quoted (value ++ [char]) rest
  | ['\\'] => none
  | char :: rest => quoted (value ++ [char]) rest

def value (input : Text) : Option (Text × Text) :=
  match eat '"' input with
  | some rest => quoted [] rest
  | none => token input

/-- One parameter, behind its semicolon. -/
def param (input : Text) : Option ((Text × Option Text) × Text) :=
  match token (skipWhitespace input) with
  | none => none
  | some (key, input) =>
    match eat '=' (skipWhitespace input) with
    | none => some ((key, none), skipWhitespace input)
    | some input =>
      (value (skipWhitespace input)).map fun (text, rest) => ((key, some text), rest)

/-- The parameters of one extension. Every round takes a semicolon. -/
def params : Nat → Text → Option (List (Text × Option Text) × Text)
  | 0, _ => none
  | fuel + 1, input =>
    match eat ';' (skipWhitespace input) with
    | none => some ([], skipWhitespace input)
    | some input =>
      match param input with
      | none => none
      | some (param, input) =>
        (params fuel input).map fun (params, input) => (param :: params, input)

/-- The extension list, with empty elements skipped. Every round takes a
character. -/
def parseList : Nat → Text → Option (List Extension)
  | 0, _ => none
  | fuel + 1, input =>
    let input := skipWhitespace input
    match eat ',' input with
    | some input => parseList fuel input
    | none =>
      if input.isEmpty then some []
      else
        match token input with
        | none => none
        | some (name, input) =>
          match params (input.length + 1) input with
          | none => none
          | some (params, input) =>
            match if input.isEmpty then some input else eat ',' input with
            | none => none
            | some input => (parseList fuel input).map ({ name, params } :: ·)

def parse (value : Text) : Option (List Extension) := parseList (value.length + 1) value

/-- A window size without sign or leading zeros. -/
def windowBits (value : Text) : Option UInt8 :=
  match parseU8 value with
  | some bits => if negotiable bits ∧ decimal bits = value then some bits else none
  | none => none

/-- One parameter, if an offer may hold it with that value. -/
def readParam (offer : WebSocketExtensions) (name : Text) (value : Option Text) :
    Option WebSocketExtensions :=
  if name = "server_no_context_takeover".toList ∧ value = none then
    some { offer with serverNoContextTakeover := true }
  else if name = "client_no_context_takeover".toList ∧ value = none then
    some { offer with clientNoContextTakeover := true }
  else if name = "server_max_window_bits".toList then
    match value with
    | none => none
    | some value => (windowBits value).map fun bits =>
        { offer with serverMaxWindowBits := some (some bits) }
  else if name = "client_max_window_bits".toList then
    match value with
    | none => some { offer with clientMaxWindowBits := some none }
    | some value => (windowBits value).map fun bits =>
        { offer with clientMaxWindowBits := some (some bits) }
  else none

/-- The parameters in order, with the names seen before. -/
def readParams (earlier : List Text) (offer : WebSocketExtensions) :
    List (Text × Option Text) → Option WebSocketExtensions
  | [] => some offer
  | (name, value) :: params =>
    if earlier.contains name then none
    else
      match readParam offer name value with
      | none => none
      | some offer => readParams (earlier ++ [name]) offer params

/-- One offer, or nothing if the server has to decline it. -/
def offer (params : List (Text × Option Text)) : Option WebSocketExtensions :=
  readParams [] .default params

/-- The offers in the header lines, most preferred first. A line that is not
text or does not parse offers nothing, and neither do the others. -/
def offers (lines : List (Option Text)) : List WebSocketExtensions :=
  match lines.mapM (fun line => line.bind parse) with
  | none => []
  | some extensions =>
    (extensions.flatten.filter (·.name = permessageDeflate)).filterMap (offer ·.params)

end Offer

end Yawc
