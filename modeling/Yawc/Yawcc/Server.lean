import Yawc.Native.Handshakes
import Yawc.Yawcc.Redirects

/-! The command line server, and what the command line client settles with it and with
every other server of the library. -/

namespace Yawc.Yawcc

/-- `Options::default().with_utf8().with_balanced_compression()`, for both tools. -/
def messageOptions : Options := { Options.default with checkUtf8 := true, compression := some .default }

section Server

/-- The arguments of the server that the handshake reads. -/
structure ServerArgs where
  path : Text
  subprotocols : List Text

variable (features : Features) (accept : Bytes → Bytes)

def reject (status : UInt16) : Response := { status, headers := [] }

/-- The requests the server switches for. -/
def ServerArgs.Serves (self : ServerArgs) (path : Text) (subprotocols : List Text) : Prop :=
  path = self.path ∧
    (self.subprotocols = [] ∨ ∃ protocol ∈ self.subprotocols, protocol ∈ subprotocols)

/-- The subprotocols a request names. -/
def offeredProtocols (headers : HeaderMap) : List Text :=
  (((headers.getAll .secWebSocketProtocol).filterMap toStr).flatMap (splitAt ',')).map trim

/-- `server::upgrade`, and the settings of the session it hands over. `queued` says
whether there is still somebody to take it. -/
def upgrade (args : ServerArgs) (path : Text) (request : Request) (queued : Bool) :
    Response × Option Negotiation :=
  if path ≠ args.path then (reject 404, none)
  else
    let offered := offeredProtocols request.headers
    let selected := args.subprotocols.find? offered.contains
    if !args.subprotocols.isEmpty && selected.isNone then (reject 400, none)
    else
      match upgradeWithOptions features accept request messageOptions with
      | .error _ => (reject 400, none)
      | .ok (response, negotiation) =>
        let headers := match selected with
          | some protocol => response.headers.insert .secWebSocketProtocol (asBytes protocol)
          | none => response.headers
        if queued then ({ response with headers }, some negotiation) else (reject 503, none)

end Server

section Tokens

theorem isToken_solid {char : Char} (token : isToken char) :
    33 ≤ char.toNat ∧ char.toNat < 127 ∧ char.toNat ≠ 44 := by
  simp only [isToken, Bool.or_eq_true, List.contains_iff_mem] at token
  rcases token with alphanum | mark
  · simp only [Char.isAlphanum, Char.isAlpha, Char.isUpper, Char.isLower, Char.isDigit,
      Bool.or_eq_true, Bool.and_eq_true, decide_eq_true_eq, ge_iff_le, UInt32.le_iff_toNat_le]
      at alphanum
    change ((65 ≤ char.toNat ∧ char.toNat ≤ 90) ∨ (97 ≤ char.toNat ∧ char.toNat ≤ 122)) ∨
      (48 ≤ char.toNat ∧ char.toNat ≤ 57) at alphanum
    omega
  · have marks : ∀ char ∈ "!#$%&'*+-.^_`|~".toList,
        33 ≤ char.toNat ∧ char.toNat < 127 ∧ char.toNat ≠ 44 := every_char (by decide)
    exact marks char mark

/-- A word that can be a subprotocol. -/
def Token (word : Text) : Prop := ∀ char ∈ word, isToken char

theorem Token.printable {word : Text} (token : Token word) : ∀ char ∈ word, Printable char := by
  intro char member
  have solid := isToken_solid (token char member)
  exact ⟨by omega, solid.2.1⟩

private theorem Token.lacks_comma {word : Text} (token : Token word) :
    ∀ char ∈ word, char ≠ ',' := by
  rintro char member rfl
  exact (isToken_solid (token ',' member)).2.2 rfl

private theorem dropWhile_solid {word : Text} (token : Token word) : word.dropWhile isWhitespace =
    word := by
  cases word with
  | nil => rfl
  | cons char rest =>
    have solid := isToken_solid (token char (by simp))
    have visible : isWhitespace char = false := by
      simp only [isWhitespace, Bool.or_eq_false_iff, Bool.and_eq_false_iff, decide_eq_false_iff_not]
      omega
    rw [List.dropWhile_cons_of_neg (by simp [visible])]

private theorem trim_token {word : Text} (token : Token word) : trim word = word := by
  have reversed : Token word.reverse := fun char member => token char (by simpa using member)
  rw [trim, trimStart, dropWhile_solid token, dropWhile_solid reversed, List.reverse_reverse]

private theorem trim_space (text : Text) : trim (' ' :: text) = trim text := by
  rw [trim, trim, trimStart, List.dropWhile_cons_of_pos (by decide), trimStart]

private theorem splitAt_ne_nil (separator : Char) (text : Text) : splitAt separator text ≠ [] := by
  cases text with
  | nil => simp [splitAt]
  | cons char rest =>
    rw [splitAt]
    split
    · simp
    · split <;> simp

private theorem splitAt_last {separator : Char} {word : Text}
    (inside : ∀ char ∈ word, char ≠ separator) :
    splitAt separator word = [word] := by
  induction word with
  | nil => rfl
  | cons char rest ih =>
    rw [splitAt, if_neg (inside char (by simp)), ih fun char member => inside char (by simp [member])]

private theorem splitAt_cons {separator : Char} {word : Text}
    (inside : ∀ char ∈ word, char ≠ separator)
    (rest : Text) : splitAt separator (word ++ separator :: rest) = word :: splitAt separator rest := by
  induction word with
  | nil => simp [splitAt]
  | cons char word ih =>
    rw [List.cons_append, splitAt, if_neg (inside char (by simp)),
      ih fun char member => inside char (by simp [member])]

theorem joinComma_cons (word second : Text) (rest : List Text) :
    joinComma (word :: second :: rest) = word ++ ',' :: (' ' :: joinComma (second :: rest)) := by
  simp [joinComma]

/-- A list of words is read as it was written. -/
theorem split_joinComma {words : List Text} (tokens : ∀ word ∈ words, Token word)
    (some' : words ≠ []) : (splitAt ',' (joinComma words)).map trim = words := by
  induction words with
  | nil => exact absurd rfl some'
  | cons word rest ih =>
    have token := tokens word (by simp)
    cases rest with
    | nil =>
      have single : joinComma [word] = word := by simp [joinComma]
      rw [single, splitAt_last token.lacks_comma, List.map_singleton, trim_token token]
    | cons second rest =>
      have spaced : (splitAt ',' (' ' :: joinComma (second :: rest))).map trim =
          (splitAt ',' (joinComma (second :: rest))).map trim := by
        rw [splitAt, if_neg (by decide)]
        cases split : splitAt ',' (joinComma (second :: rest)) with
        | nil => exact absurd split (splitAt_ne_nil _ _)
        | cons first more => simp [trim_space]
      rw [joinComma_cons, splitAt_cons token.lacks_comma, List.map_cons, trim_token token, spaced,
        ih (fun word member => tokens word (by simp [member])) (by simp)]

end Tokens

/-- What the documentation of the `http` crate says of header values. -/
structure Crates.Documented (crates : Crates) : Prop where
  headerValue : ∀ text value, crates.headerValue text = .ok value → value = asBytes text

/-- The answer to a key, as the library computes it. -/
def Crates.accept (crates : Crates) : Bytes → Bytes :=
  secWebsocketProtocol crates.sha1 crates.encode

/-- The client expects what the library answers. -/
theorem expectedAccept_eq (crates : Crates) (key : Text) :
    expectedAccept crates key = crates.accept (asBytes key) := by
  have joined : asBytes (key ++ "258EAFA5-E914-47DA-95CA-C5AB0DC85B11".toList) =
      asBytes key ++ textBytes "258EAFA5-E914-47DA-95CA-C5AB0DC85B11" := List.flatMap_append
  rw [expectedAccept, joined]
  rfl

section Answers

/-- The answers to an offer without parameters. -/
def Bare (answer : WebSocketExtensions) : Prop :=
  answer.clientMaxWindowBits = none ∧
    ∀ window, answer.serverMaxWindowBits = some window → ∃ bits, window = some bits ∧ 9 ≤ bits ∧ bits ≤ 15

private theorem clampWindow_le (bits : UInt8) : 9 ≤ clampWindow bits ∧ clampWindow bits ≤ 15 := by
  unfold clampWindow
  split
  · decide
  · split
    · decide
    · grind

private theorem merge_bare (backend : Backend) (options : DeflateOptions) :
    Bare (options.merge backend .default) := by
  constructor
  · cases backend with
    | zlib => rfl
    | miniz => rfl
  · intro window named
    cases backend with
    | miniz => cases named
    | zlib =>
      simp only [DeflateOptions.merge, WebSocketExtensions.default] at named
      cases preferred : options.serverMaxWindowBits with
      | none => simp [preferred] at named
      | some bits =>
        simp only [preferred, Option.map_some, Option.some.injEq] at named
        exact ⟨_, named.symm, clampWindow_le bits⟩

/-- The client takes every such answer as it is. -/
theorem parseExtensions_bare {answer : WebSocketExtensions} (bare : Bare answer) :
    parseExtensions [answer.display] = .ok (some answer.display) := by
  obtain ⟨server, client, serverFlag, clientFlag⟩ := answer
  obtain ⟨none', named⟩ := bare
  simp only at none' named
  subst none'
  have each : ∀ window ∈ [none, some 9, some 10, some 11, some 12, some 13, some 14, some (15 : UInt8)],
      ∀ serverFlag clientFlag : Bool,
        parseExtensions [WebSocketExtensions.display ⟨window.map some, none, serverFlag, clientFlag⟩] =
          .ok (some (WebSocketExtensions.display ⟨window.map some, none, serverFlag, clientFlag⟩)) := by
    decide +kernel
  cases server with
  | none => exact each none (by simp) serverFlag clientFlag
  | some window =>
    obtain ⟨bits, rfl, least, most⟩ := named window rfl
    have listed : some bits ∈ [none, some 9, some 10, some 11, some 12, some 13, some 14, some (15 : UInt8)] := by
      simp only [List.mem_cons, ← UInt8.toNat_inj, UInt8.le_iff_toNat_le, Option.some.injEq,
        UInt8.reduceToNat] at least most ⊢
      omega
    exact each (some bits) listed serverFlag clientFlag

/-- A response that switches to WebSocket. -/
structure Switched (response : Response) (accepted : Bytes) (protocol : Option Text)
    (answer : Option WebSocketExtensions) : Prop where
  status : response.status = 101
  connection : response.headers.getAll .connection = [textBytes "upgrade"]
  upgrade : response.headers.getAll .upgrade = [textBytes "websocket"]
  accept : response.headers.getAll .secWebSocketAccept = [accepted]
  protocol : response.headers.getAll .secWebSocketProtocol = protocol.toList.map asBytes
  extensions : response.headers.getAll .secWebSocketExtensions =
    answer.toList.map (asBytes ·.display)

/-- The client takes such a response if it names a subprotocol just as the client does. -/
theorem checkUpgrade_switched {crates : Crates} {key : Text} {subprotocols : List Text}
    {response : Response} {protocol : Option Text} {answer : Option WebSocketExtensions}
    (switched : Switched response (expectedAccept crates key) protocol answer)
    (bare : ∀ extensions, answer = some extensions → Bare extensions)
    (token : ∀ selected, protocol = some selected → Token selected) (written : Option Text) :
    checkUpgrade crates subprotocols key response = .ok written ↔
      answer.map (·.display) = written ∧
      (protocol = none ∧ subprotocols = [] ∨ ∃ selected ∈ subprotocols, protocol = some selected) := by
  have upgrading : hasToken response.headers .connection "upgrade".toList &&
      hasToken response.headers .upgrade "websocket".toList := by
    rw [hasToken, hasToken, switched.connection, switched.upgrade]
    decide
  have accepted : ((response.headers.getAll .secWebSocketAccept).length = 1 &&
      response.headers.get .secWebSocketAccept = some (expectedAccept crates key)) := by
    simp [HeaderMap.get, switched.accept]
  have values : (response.headers.getAll .secWebSocketExtensions).mapM (toStrOrFail crates) =
      .ok (answer.toList.map (·.display)) := by
    rw [switched.extensions]
    cases answer with
    | none => rfl
    | some answer =>
      simp [toStrOrFail, toStr_asBytes (printable_display answer), context, pure, Except.pure, bind,
        Except.bind]
  have parsed : parseExtensions (answer.toList.map (·.display)) = .ok (answer.map (·.display)) := by
    cases answer with
    | none => rfl
    | some answer => exact parseExtensions_bare (bare answer rfl)
  have few : (protocol.toList.map asBytes).length ≤ 1 := by
    cases protocol with
    | none => simp
    | some selected => simp
  simp only [checkUpgrade, bind_ok, ensure_ok, switched.status, upgrading, accepted, values,
    switched.protocol, few, decide_true, true_and, exists_const]
  cases protocol with
  | none => simp [bind_ok, ensure_ok, parsed, and_comm]
  | some selected =>
    simp [toStrOrFail, toStr_asBytes (token selected rfl).printable, context_ok, ensure_ok, bind_ok,
      parsed, and_comm]

end Answers

section Requests

variable {Url Host : Type} {urls : Urls Url Host} {crates : Crates}

/-- Headers that name no subprotocol. -/
def Plain (headers : HeaderMap) : Prop := headers.getAll .secWebSocketProtocol = []

private theorem Plain.append {headers : HeaderMap} (plain : Plain headers) {name : HeaderName}
    (value : Bytes)
    (other : name ≠ .secWebSocketProtocol) : Plain (headers.append name value) := by
  simpa [Plain, HeaderMap.getAll_append, other] using plain

theorem Plain.insert {headers : HeaderMap} (plain : Plain headers) {name : HeaderName} (value : Bytes)
    (other : name ≠ .secWebSocketProtocol) : Plain (headers.insert name value) := by
  rw [Plain, HeaderMap.getAll_insert, if_neg other]
  exact plain

private theorem addHeader_plain {headers kept : HeaderMap} {raw : Text} (plain : Plain headers)
    (added : addHeader crates headers raw = .ok kept) : Plain kept := by
  simp only [addHeader, bind_ok, context_ok, ensure_ok] at added
  obtain ⟨parts, -, key, -, _, own, value, -, done⟩ := added
  simp only [pure, Except.pure, Except.ok.injEq] at done
  subst done
  refine plain.append value ?_
  rintro rfl
  revert own
  decide

private theorem foldlM_plain {raws : List Text} {headers kept : HeaderMap} (plain : Plain headers)
    (added : raws.foldlM (addHeader crates) headers = .ok kept) : Plain kept := by
  induction raws generalizing headers with
  | nil =>
    obtain rfl := Except.ok.inj added
    exact plain
  | cons raw raws ih =>
    rw [List.foldlM_cons, bind_ok] at added
    obtain ⟨next, one, rest⟩ := added
    exact ih (addHeader_plain plain one) rest

private theorem setHeader_plain {name : HeaderName} {headers kept : HeaderMap} {value : Option Text}
    (plain : Plain headers) (other : name ≠ .secWebSocketProtocol)
    (set : setHeader crates name headers value = .ok kept) : Plain kept := by
  cases value with
  | none =>
    obtain rfl := Except.ok.inj set
    exact plain
  | some value =>
    simp only [setHeader, bind_ok, context_ok] at set
    obtain ⟨bytes, -, done⟩ := set
    obtain rfl := Except.ok.inj done
    exact plain.insert bytes other

theorem insertAuthorization_plain {headers kept : HeaderMap} {auth : Text} (plain : Plain headers)
    (set : insertAuthorization crates headers auth = .ok kept) : Plain kept := by
  simp only [insertAuthorization, bind_ok] at set
  obtain ⟨bytes, -, done⟩ := set
  obtain rfl := Except.ok.inj done
  exact plain.insert bytes (by decide)

private theorem addAuth_plain {headers kept : HeaderMap} {auth : Option Text}
    (plain : Plain headers)
    (set : addAuth crates headers auth = .ok kept) : Plain kept := by
  cases auth with
  | none =>
    obtain rfl := Except.ok.inj set
    exact plain
  | some auth =>
    simp only [addAuth, bind_ok] at set
    obtain ⟨_, -, done⟩ := set
    exact insertAuthorization_plain plain done

private theorem takeCredentials_plain {args cleared : Args Url} {headers kept : HeaderMap}
    (plain : Plain headers)
    (taken : takeCredentials urls crates args headers = .ok (cleared, kept)) :
    Plain kept ∧ cleared.subprotocols = args.subprotocols := by
  unfold takeCredentials at taken
  split at taken
  · simp only [bind_ok] at taken
    obtain ⟨_, -, _, -, _, -, inserted, set, done⟩ := taken
    obtain ⟨rfl, rfl⟩ := Prod.mk.inj (Except.ok.inj done)
    exact ⟨insertAuthorization_plain plain set, rfl⟩
  · obtain ⟨rfl, rfl⟩ := Prod.mk.inj (Except.ok.inj taken)
    exact ⟨plain, rfl⟩

private theorem checkSubprotocols_token {earlier protocols : List Text}
    (checked : checkSubprotocols earlier protocols = .ok ()) :
    ∀ protocol ∈ protocols, Token protocol := by
  induction protocols generalizing earlier with
  | nil => simp
  | cons protocol rest ih =>
    simp only [checkSubprotocols, bind_ok, ensure_ok, Bool.and_eq_true, List.all_eq_true] at checked
    obtain ⟨_, ⟨-, token⟩, _, -, later⟩ := checked
    intro word member
    rcases List.mem_cons.mp member with rfl | member
    · exact token
    · exact ih later word member

/-- A configuration leaves the subprotocols to the client, which checks them. -/
theorem Config.new_plain {args : Args Url} {config : Config Url}
    (made : Config.new urls crates args = .ok config) :
    Plain config.headers ∧ ∀ protocol ∈ config.args.subprotocols, Token protocol := by
  simp only [Config.new, bind_ok] at made
  obtain ⟨_, -, _, -, given, folded, origin, originSet, host, hostSet, authorized, authSet,
    ⟨cleared, kept⟩, taken, _, checked, done⟩ := made
  obtain rfl := Except.ok.inj done
  have empty : Plain [] := rfl
  have first : Plain given := foldlM_plain empty folded
  have second := setHeader_plain first (by decide) originSet
  have third := setHeader_plain second (by decide) hostSet
  have fourth := addAuth_plain third authSet
  exact ⟨(takeCredentials_plain fourth taken).1, checkSubprotocols_token checked⟩

/-- What a server reads in a request of the client. -/
structure Asked (headers : HeaderMap) (key : Text) (subprotocols : List Text) : Prop where
  key : headers.get .secWebSocketKey = some (asBytes key)
  version : headers.get .secWebSocketVersion = some (textBytes "13")
  extensions : headers.getAll .secWebSocketExtensions = [textBytes "permessage-deflate"]
  protocols : offeredProtocols headers = subprotocols

private theorem withHost_getAll {url : Url} {headers named : HeaderMap}
    (set : withHost urls crates url headers = .ok named) {name : HeaderName} (other : .host ≠ name) :
    named.getAll name = headers.getAll name := by
  unfold withHost at set
  split at set
  · obtain rfl := Except.ok.inj set
    rfl
  · simp only [bind_ok] at set
    obtain ⟨value, -, done⟩ := set
    obtain rfl := Except.ok.inj done
    rw [HeaderMap.getAll_insert, if_neg other]

private theorem joinComma_printable {words : List Text} (tokens : ∀ word ∈ words, Token word) :
    ∀ char ∈ joinComma words, Printable char := by
  induction words with
  | nil => simp [joinComma]
  | cons word rest ih =>
    have token := (tokens word (by simp)).printable
    cases rest with
    | nil => simpa [joinComma] using token
    | cons second rest =>
      rw [joinComma_cons]
      have later := ih fun word member => tokens word (by simp [member])
      simpa [or_imp, forall_and] using ⟨token, by decide, by decide, later⟩

theorem handshakeHeaders_asked (documented : crates.Documented) {subprotocols : List Text}
    {url : Url} {headers sent : HeaderMap} {key : Text} (plain : Plain headers)
    (tokens : ∀ protocol ∈ subprotocols, Token protocol)
    (made : handshakeHeaders urls crates subprotocols url headers key = .ok sent) :
    Asked sent key subprotocols := by
  simp only [handshakeHeaders, bind_ok] at made
  obtain ⟨_, -, named, hosted, value, keyed, done⟩ := made
  obtain rfl := documented.headerValue _ _ keyed
  unfold withProtocols at done
  split at done
  · rename_i none'
    obtain rfl := Except.ok.inj done
    obtain rfl : subprotocols = [] := by simpa using none'
    refine ⟨?_, ?_, ?_, ?_⟩
    · simp [HeaderMap.get_insert]
    · simp [HeaderMap.get_insert]
    · simp [HeaderMap.getAll_insert]
    · simp [offeredProtocols, HeaderMap.getAll_insert, withHost_getAll hosted,
        show headers.getAll .secWebSocketProtocol = [] from plain]
  · rename_i some'
    simp only [bind_ok] at done
    obtain ⟨listed, written, done⟩ := done
    obtain rfl := documented.headerValue _ _ written
    obtain rfl := Except.ok.inj done
    have nonempty : subprotocols ≠ [] := by simpa using some'
    refine ⟨?_, ?_, ?_, ?_⟩
    · simp [HeaderMap.get_insert]
    · simp [HeaderMap.get_insert]
    · simp [HeaderMap.getAll_insert]
    · simp [offeredProtocols, HeaderMap.getAll_insert, toStr_asBytes (joinComma_printable tokens),
        split_joinComma tokens nonempty]

end Requests

section Settled

variable {Url Host : Type} {urls : Urls Url Host} {crates : Crates} {accept : Bytes → Bytes}
  {key : Text} {subprotocols : List Text} {headers : HeaderMap}

/-- A request of the client with its headers. -/
def getRequest (headers : HeaderMap) : Request := { method := .get, protocol := none, headers }

/-- What a server of the library answers to the client's offer. -/
def bareAnswer (features : Features) (options : Options) : Option WebSocketExtensions :=
  options.compression.map (·.merge features.backend .default)

theorem bareAnswer_bare {features : Features} {options : Options} (extensions : WebSocketExtensions)
    (answered : bareAnswer features options = some extensions) : Bare extensions := by
  obtain ⟨deflate, -, rfl⟩ := Option.map_eq_some_iff.mp answered
  exact merge_bare features.backend deflate

private theorem Bare.named {extensions : WebSocketExtensions} (bare : Bare extensions) :
    extensions.Named where
  server := by
    intro window named
    obtain ⟨bits, rfl, least, most⟩ := bare.2 window named
    refine ⟨bits, rfl, ?_⟩
    simp only [negotiable, Bool.and_eq_true, decide_eq_true_eq]
    exact ⟨by grind, most⟩
  client := by
    intro window named
    rw [bare.1] at named
    cases named

/-- Every server of the library serves the client's request. -/
theorem upgradeWithOptions_asked (accept : Bytes → Bytes) (asked : Asked headers key subprotocols)
    (features : Features) (options : Options) :
    ∃ server, upgradeWithOptions features accept (getRequest headers) options =
        .ok ((switching accept (asBytes key)).withAnswer (bareAnswer features options), server) ∧
      Negotiation.new (bareAnswer features options) options .server = .ok server := by
  have answered : answerFor features options [textBytes "permessage-deflate"] =
      bareAnswer features options := by
    have offers : Offer.offers [toStr (textBytes "permessage-deflate")] = [.default] := by decide +kernel
    rw [answerFor, List.map_singleton, offers, bareAnswer]
    cases options.compression with
    | none => rfl
    | some deflate => rfl
  obtain ⟨server, settings⟩ := server_settings features options [textBytes "permessage-deflate"]
  rw [answered] at settings
  refine ⟨server, ?_, settings⟩
  rw [upgradeWithOptions_ok]
  refine ⟨asked.version, switching accept (asBytes key), ?_, ?_, ?_⟩
  · have ordinary : isExtendedConnect features (getRequest headers) = false := by
      simp [isExtendedConnect, getRequest]
    have keyed : (getRequest headers).headers.get .secWebSocketKey = some (asBytes key) := asked.key
    rw [handshakeResponse, ordinary, keyed]
    rfl
  · rw [getRequest, asked.extensions, answered]
  · rw [getRequest, asked.extensions, answered]
    exact settings

theorem switching_switched (accept : Bytes → Bytes) (features : Features) (options : Options)
    (key : Bytes) :
    Switched ((switching accept key).withAnswer (bareAnswer features options)) (accept key) none
      (bareAnswer features options) where
  status := rfl
  connection := withAnswer_getAll _ _ (by decide)
  upgrade := withAnswer_getAll _ _ (by decide)
  accept := withAnswer_getAll _ _ (by decide)
  protocol := withAnswer_getAll _ _ (by decide)
  extensions := by
    cases bareAnswer features options with
    | none => rfl
    | some answer => rfl

/-- The client takes up what the server of such a response has settings for. -/
theorem settled_mirrored {response : Response} {protocol : Option Text}
    {answer : Option WebSocketExtensions} {written : Option Text} {options : Options}
    {server : Negotiation} (switched : Switched response (expectedAccept crates key) protocol answer)
    (bare : ∀ extensions, answer = some extensions → Bare extensions)
    (token : ∀ selected, protocol = some selected → Token selected)
    (settings : Negotiation.new answer options .server = .ok server)
    (checked : checkUpgrade crates subprotocols key response = .ok written) :
    ∃ client, Negotiation.new (written.bind WebSocketExtensions.fromStr) messageOptions .client =
      .ok client ∧ Mirrored client server := by
  obtain ⟨rfl, -⟩ := (checkUpgrade_switched switched bare token written).mp checked
  have read : (answer.map (·.display)).bind WebSocketExtensions.fromStr = answer := by
    cases answer with
    | none => rfl
    | some answer => exact WebSocketExtensions.fromStr_display (bare answer rfl).named
  rw [read]
  obtain ⟨client, taken⟩ : ∃ client, Negotiation.new answer messageOptions .client = .ok client :=
    (client_settings_iff answer messageOptions).mpr fun none' => by cases none'
  exact ⟨client, taken, settings_mirrored taken settings⟩

private theorem checkUpgrade_status {response : Response} {written : Option Text}
    (checked : checkUpgrade crates subprotocols key response = .ok written) :
    response.status = 101 := by
  simp only [checkUpgrade, bind_ok, ensure_ok] at checked
  obtain ⟨_, status, -⟩ := checked
  simpa using status

private theorem Switched.insert {response : Response} {accepted : Bytes}
    {answer : Option WebSocketExtensions}
    (switched : Switched response accepted none answer) (protocol : Text) :
    Switched { response with headers := response.headers.insert .secWebSocketProtocol (asBytes protocol) }
      accepted (some protocol) answer where
  status := switched.status
  connection := by simpa [HeaderMap.getAll_insert] using switched.connection
  upgrade := by simpa [HeaderMap.getAll_insert] using switched.upgrade
  accept := by simpa [HeaderMap.getAll_insert] using switched.accept
  protocol := by simp [HeaderMap.getAll_insert]
  extensions := by simpa [HeaderMap.getAll_insert] using switched.extensions

/-- A request of the client is taken by the command line server for its path, and for
the first of its subprotocols that the client names. -/
theorem upgrade_asked (accept : Bytes → Bytes) (asked : Asked headers key subprotocols) (features : Features)
    {args : ServerArgs} {path : Text} (served : args.Serves path subprotocols) :
    ∃ response session, upgrade features accept args path (getRequest headers) true =
        (response, some session) ∧
      Switched response (accept (asBytes key)) (args.subprotocols.find? subprotocols.contains)
        (bareAnswer features messageOptions) ∧
      Negotiation.new (bareAnswer features messageOptions) messageOptions .server = .ok session := by
  obtain ⟨here, chosen⟩ := served
  obtain ⟨session, served, settings⟩ := upgradeWithOptions_asked accept asked features messageOptions
  have switched := switching_switched accept features messageOptions (asBytes key)
  have offered : offeredProtocols (getRequest headers).headers = subprotocols := asked.protocols
  have taken : (!args.subprotocols.isEmpty &&
      (args.subprotocols.find? subprotocols.contains).isNone) = false := by
    rcases chosen with none' | ⟨protocol, listed, named⟩
    · simp [none']
    · simp only [Bool.and_eq_false_iff]
      exact .inr (by simpa using ⟨protocol, listed, named⟩)
  cases selected : args.subprotocols.find? subprotocols.contains with
  | none =>
    rw [selected] at taken
    refine ⟨_, session, ?_, switched, settings⟩
    rw [upgrade, if_neg (not_not.mpr here)]
    simp only [offered, selected]
    rw [if_neg (by rw [taken]; decide), served]
    rfl
  | some protocol =>
    rw [selected] at taken
    refine ⟨_, session, ?_, switched.insert protocol, settings⟩
    rw [upgrade, if_neg (not_not.mpr here)]
    simp only [offered, selected]
    rw [if_neg (by rw [taken]; decide), served]
    rfl

/-- Every other request is refused. -/
theorem upgrade_refused (asked : Asked headers key subprotocols) {features : Features}
    {args : ServerArgs} {path : Text} {queued : Bool}
    (other : ¬ args.Serves path subprotocols) :
    upgrade features accept args path (getRequest headers) queued =
      (reject (if path = args.path then 400 else 404), none) := by
  have offered : offeredProtocols (getRequest headers).headers = subprotocols := asked.protocols
  unfold upgrade
  by_cases here : path = args.path
  · rw [ServerArgs.Serves, not_and, not_or] at other
    obtain ⟨some', apart⟩ := other here
    have unselected : args.subprotocols.find? subprotocols.contains = none := by
      simpa using apart
    have nonempty : (!args.subprotocols.isEmpty) = true := by simpa using some'
    simp only [here, offered, unselected, nonempty, ne_eq, not_true_eq_false, Option.isNone_none,
      Bool.and_self, ↓reduceIte]
  · simp only [here, ne_eq, not_false_eq_true, ↓reduceIte]

end Settled

section Sample

def sampleKey : Text := "dGhlIHNhbXBsZSBub25jZQ==".toList

/-- SHA-1 and base64 of one key. -/
def Crates.keyed : Crates :=
  { Crates.sample with
    sha1 := fun bytes =>
      if bytes = textBytes "dGhlIHNhbXBsZSBub25jZQ==258EAFA5-E914-47DA-95CA-C5AB0DC85B11" then
        [0xb3, 0x7a, 0x4f, 0x2c, 0xc0, 0x62, 0x4f, 0x16, 0x90, 0xf6, 0x46, 0x06, 0xcf, 0x38, 0x59,
          0x45, 0xb2, 0xbe, 0xc4, 0xea]
      else []
    encode := fun bytes =>
      if bytes.head? = some 0xb3 then "s3pPLMBiTxaQ9kYGzzhZRbK+xOo=".toList else [] }

theorem Crates.keyed_documented : Crates.keyed.Documented where
  headerValue _ _ made := (Except.ok.inj made).symm

def chatArgs : Args Parts :=
  { Args.sample with url := .at 'a', subprotocols := ["chat".toList, "json".toList] }

private theorem chatArgs_new :
    Config.new twoServers .keyed chatArgs = .ok { args := chatArgs, headers := [] } := rfl

def chatHeaders (subprotocols : List Bytes) : HeaderMap :=
  [(.host, textBytes "a"), (.connection, textBytes "Upgrade"), (.upgrade, textBytes "websocket"),
    (.secWebSocketVersion, textBytes "13"), (.secWebSocketKey, asBytes sampleKey),
    (.secWebSocketExtensions, textBytes "permessage-deflate")] ++
    subprotocols.map (.secWebSocketProtocol, ·)

private theorem chatHeaders_made :
    handshakeHeaders twoServers .keyed chatArgs.subprotocols chatArgs.url [] sampleKey =
      .ok (chatHeaders [textBytes "chat, json"]) := rfl

/-- The server prefers what the client names last. -/
def jsonServer : ServerArgs := { path := ['/'], subprotocols := ["json".toList, "chat".toList] }

def plainArgs : Args Parts := { Args.sample with url := .at 'a' }

private theorem plainArgs_new :
    Config.new twoServers .keyed plainArgs = .ok { args := plainArgs, headers := [] } := rfl

private theorem plainHeaders_made :
    handshakeHeaders twoServers .keyed plainArgs.subprotocols plainArgs.url [] sampleKey =
      .ok (chatHeaders []) := rfl

end Sample

section Outcome

variable {Url Host : Type} {urls : Urls Url Host} {crates : Crates} {key : Text}
  {headers : HeaderMap}

/-- The client connects to a server of the library, whatever the options of that, exactly
if it asks for no subprotocol. Both sides then run with settings that mirror each
other. -/
theorem client_settles (documented : crates.Documented) {args : Args Url}
    {config : Config Url} (made : Config.new urls crates args = .ok config) {url : Url}
    (hop : headers = config.headers ∨ headers = []) {sent : HeaderMap}
    (asking : handshakeHeaders urls crates config.args.subprotocols url headers key = .ok sent)
    (features : Features) (entry : Entry) (options : Options) :
    ∃ response server,
      serve features crates.accept entry (getRequest sent) options = some (response, server) ∧
      ((∃ written, checkUpgrade crates config.args.subprotocols key response = .ok written) ↔
        config.args.subprotocols = []) ∧
      ∀ written, checkUpgrade crates config.args.subprotocols key response = .ok written →
        ∃ client, Negotiation.new (written.bind WebSocketExtensions.fromStr) messageOptions
          .client = .ok client ∧ Mirrored client server := by
  obtain ⟨plain, tokens⟩ := Config.new_plain made
  have hopPlain : Plain headers := by
    rcases hop with rfl | rfl
    · exact plain
    · rfl
  have asked := handshakeHeaders_asked documented hopPlain tokens asking
  obtain ⟨server, served, settings⟩ := upgradeWithOptions_asked crates.accept asked features options
  have switched := switching_switched crates.accept features options (asBytes key)
  rw [← expectedAccept_eq] at switched
  refine ⟨_, server, serve_eq_some.mpr served, ?_, ?_⟩
  · simp [checkUpgrade_switched switched bareAnswer_bare (by simp)]
  · intro written checked
    exact settled_mirrored switched bareAnswer_bare (by simp) settings checked

theorem client_settles_deflate :
    ∃ response server, serve { backend := .zlib, http2 := false } Crates.keyed.accept .axum
        (getRequest (chatHeaders [])) messageOptions = some (response, server) ∧
      ∃ written, checkUpgrade .keyed [] sampleKey response = .ok written := by
  obtain ⟨response, server, served, taken, -⟩ := client_settles Crates.keyed_documented plainArgs_new
    (.inl rfl) plainHeaders_made { backend := .zlib, http2 := false } .axum messageOptions
  exact ⟨response, server, served, taken.mpr rfl⟩

/-- The command line server refuses what it does not serve. The client connects to it
exactly for the path of the server and a subprotocol both name, or none on both sides. They
settle on the server's first choice and on settings that mirror each other. -/
theorem tools_settle (documented : crates.Documented) {args : Args Url}
    {config : Config Url} (made : Config.new urls crates args = .ok config) {url : Url}
    (hop : headers = config.headers ∨ headers = []) {sent : HeaderMap}
    (asking : handshakeHeaders urls crates config.args.subprotocols url headers key = .ok sent)
    (server : ServerArgs) (features : Features) (path : Text) {response : Response}
    {session : Option Negotiation}
    (answered : upgrade features crates.accept server path (getRequest sent) true =
      (response, session)) :
    (server.Serves path config.args.subprotocols → response.status = 101 ∧ session.isSome) ∧
    (¬ server.Serves path config.args.subprotocols →
      response = reject (if path = server.path then 400 else 404) ∧ session = none) ∧
    ((∃ written, checkUpgrade crates config.args.subprotocols key response = .ok written) ↔
      path = server.path ∧ (server.subprotocols = [] ∧ config.args.subprotocols = [] ∨
        ∃ protocol ∈ server.subprotocols, protocol ∈ config.args.subprotocols)) ∧
    ∀ written, checkUpgrade crates config.args.subprotocols key response = .ok written →
      response.headers.getAll .secWebSocketProtocol =
        ((server.subprotocols.find? config.args.subprotocols.contains).toList.map asBytes) ∧
      ∃ client negotiation, session = some negotiation ∧
        Negotiation.new (written.bind WebSocketExtensions.fromStr) messageOptions .client =
          .ok client ∧ Mirrored client negotiation := by
  obtain ⟨plain, tokens⟩ := Config.new_plain made
  have hopPlain : Plain headers := by
    rcases hop with rfl | rfl
    · exact plain
    · rfl
  have asked := handshakeHeaders_asked documented hopPlain tokens asking
  by_cases served : server.Serves path config.args.subprotocols
  · obtain ⟨response', session', same, switched, settings⟩ :=
      upgrade_asked crates.accept asked features served
    obtain ⟨rfl, rfl⟩ := Prod.mk.inj (answered.symm.trans same)
    refine ⟨fun _ => ⟨switched.status, rfl⟩, fun other => absurd served other, ?_⟩
    obtain ⟨here, chosen⟩ := served
    rw [← expectedAccept_eq] at switched
    have token (selected : Text)
        (found : server.subprotocols.find? config.args.subprotocols.contains = some selected) :
        Token selected := by
      have named := List.find?_some found
      exact tokens selected (by simpa using named)
    constructor
    · rw [exists_congr fun written => checkUpgrade_switched switched bareAnswer_bare token written]
      simp only [exists_and_right, exists_eq', true_and, here]
      cases selected : server.subprotocols.find? config.args.subprotocols.contains with
      | none =>
        have apart : ¬ ∃ protocol ∈ server.subprotocols, protocol ∈ config.args.subprotocols := by
          simpa using selected
        simp [chosen.resolve_right apart]
      | some protocol =>
        have listed := List.mem_of_find?_eq_some selected
        have named : protocol ∈ config.args.subprotocols := by simpa using List.find?_some selected
        exact iff_of_true (.inr ⟨protocol, named, rfl⟩) (.inr ⟨protocol, listed, named⟩)
    · intro written taken
      obtain ⟨client, clientSide, mirrored⟩ :=
        settled_mirrored switched bareAnswer_bare token settings taken
      exact ⟨switched.protocol, client, session', rfl, clientSide, mirrored⟩
  · rw [upgrade_refused asked served] at answered
    obtain ⟨rfl, rfl⟩ := Prod.mk.inj answered
    have failed (written : Option Text) :
        ¬ checkUpgrade crates config.args.subprotocols key
          (reject (if path = server.path then 400 else 404)) = .ok written := by
      intro taken
      have status := checkUpgrade_status taken
      simp only [reject] at status
      split at status
      · cases status
      · cases status
    refine ⟨fun here => absurd here served, fun _ => ⟨rfl, rfl⟩,
      ⟨fun ⟨written, taken⟩ => absurd taken (failed written), ?_⟩,
      fun written taken => absurd taken (failed written)⟩
    rintro ⟨here, both⟩
    refine absurd ⟨here, ?_⟩ served
    rcases both with ⟨none', -⟩ | shared
    · exact .inl none'
    · exact .inr shared

theorem tools_settle_chat :
    ∃ written, checkUpgrade .keyed chatArgs.subprotocols sampleKey
      (upgrade { backend := .zlib, http2 := false } Crates.keyed.accept jsonServer ['/']
        (getRequest (chatHeaders [textBytes "chat, json"])) true).1 = .ok written := by
  have settled := tools_settle Crates.keyed_documented chatArgs_new (.inl rfl) chatHeaders_made
    jsonServer { backend := .zlib, http2 := false } ['/'] Prod.mk.eta.symm
  exact settled.2.2.1.mpr ⟨rfl, .inr ⟨"json".toList, by decide, by decide⟩⟩

end Outcome

end Yawc.Yawcc
