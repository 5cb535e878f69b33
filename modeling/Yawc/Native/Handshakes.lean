import Yawc.Native.Agreement
import Yawc.Native.Http2

/-! Which handshakes succeed, whatever headers the caller puts into the request:
over HTTP/1.1 or HTTP/2, with a server behind hyper or axum. -/

namespace Yawc

open Socks5 (Host)

/-- How a request reaches the server's code. -/
inductive Entry where
  | hyper
  | axum

def serve (features : Features) (accept : Bytes → Bytes) (entry : Entry) (request : Request)
    (options : Options) : Option (Response × Negotiation) :=
  match entry with
  | .hyper => (upgradeWithOptions features accept request options).toOption
  | .axum =>
    match IncomingUpgrade.fromRequestParts features accept request true with
    | .error _ => none
    | .ok incoming => (incoming.upgrade features options).toOption

def HttpVersion.request (version : HttpVersion) (features : Features) (display : Host → Text)
    (url : Url) (key : Bytes) (options : Options) (builder : HeaderMap) : Option Request :=
  match version with
  | .http1 => url.http1Request features display key options builder
  | .http2 => (Http2.buildRequest features display url options builder).toOption.map Prod.snd

def HttpVersion.verify (version : HttpVersion) (accept : Bytes → Bytes) (key : Bytes)
    (response : Response) (options : Options) : Result Negotiation :=
  match version with
  | .http1 => Yawc.verify accept response key options
  | .http2 => Http2.verify response options

section Headers

theorem HeaderMap.get_append (headers : HeaderMap) (name other : HeaderName) (value : Bytes) :
    (headers.append other value).get name =
      if other = name then (headers.get name).or (some value) else headers.get name := by
  unfold get
  rw [getAll_append]
  by_cases same : other = name
  · simp [same, List.head?_append]
  · simp [same]

theorem HeaderMap.get_insert (headers : HeaderMap) (name other : HeaderName) (value : Bytes) :
    (headers.insert other value).get name = if other = name then some value else headers.get name := by
  unfold get
  rw [getAll_insert]
  by_cases same : other = name
  · simp [same]
  · simp [same]

/-- The first value is the caller's, if there is one. -/
theorem http1Request_key (features : Features) (host key : Bytes) (options : Options)
    (builder : HeaderMap) :
    (http1Request features host key options builder).headers.get .secWebSocketKey =
      (builder.get .secWebSocketKey).or (some key) := by
  unfold http1Request
  cases options.compression with
  | none => split <;> simp [HeaderMap.get_append]
  | some compression => split <;> simp [HeaderMap.get_append, HeaderMap.get_insert]

private theorem http1Request_version (features : Features) (host key : Bytes) (options : Options)
    (builder : HeaderMap) :
    (http1Request features host key options builder).headers.get .secWebSocketVersion =
      (builder.get .secWebSocketVersion).or (some (textBytes "13")) := by
  unfold http1Request
  cases options.compression with
  | none => split <;> simp [HeaderMap.get_append]
  | some compression => split <;> simp [HeaderMap.get_append, HeaderMap.get_insert]

/-- The offers are the client's own, and only without them the caller's. -/
def offeredLines (features : Features) (options : Options) (builder : HeaderMap) : List Bytes :=
  match options.compression with
  | some compression =>
    [asBytes (WebSocketExtensions.ofOptions features.backend compression).display]
  | none => builder.getAll .secWebSocketExtensions

private theorem http1Request_extensions (features : Features) (host key : Bytes) (options : Options)
    (builder : HeaderMap) :
    (http1Request features host key options builder).headers.getAll .secWebSocketExtensions =
      offeredLines features options builder := by
  unfold http1Request offeredLines
  cases options.compression with
  | none => split <;> simp [HeaderMap.getAll_append]
  | some compression => simp [HeaderMap.getAll_insert]

end Headers

section Server

variable {features : Features} {accept : Bytes → Bytes} {request : Request} {options : Options}

/-- What the server answers to the offers of a request. -/
def answerFor (features : Features) (options : Options) (lines : List Bytes) :
    Option WebSocketExtensions :=
  WebSocketExtensions.agree features.backend options.compression (Offer.offers (lines.map toStr))

def Response.withAnswer (self : Response) (answer : Option WebSocketExtensions) : Response :=
  { self with
    headers := match answer with
      | some answer => self.headers.append .secWebSocketExtensions (asBytes answer.display)
      | none => self.headers }

theorem upgradeWithOptions_ok {response : Response} {server : Negotiation} :
    upgradeWithOptions features accept request options = .ok (response, server) ↔
      request.headers.get .secWebSocketVersion = some (textBytes "13") ∧
      ∃ base, handshakeResponse features accept request = .ok base ∧
        response = base.withAnswer
          (answerFor features options (request.headers.getAll .secWebSocketExtensions)) ∧
        Negotiation.new (answerFor features options
          (request.headers.getAll .secWebSocketExtensions)) options .server = .ok server := by
  unfold upgradeWithOptions answerFor Response.withAnswer
  cases handshakeResponse features accept request with
  | error error => simp
  | ok base =>
    by_cases version : request.headers.get .secWebSocketVersion = some (textBytes "13")
    · simp only [version, ne_eq, not_true_eq_false, ↓reduceIte, true_and, Except.ok.injEq,
        exists_eq_left']
      generalize WebSocketExtensions.agree features.backend options.compression _ = answer
      cases Negotiation.new answer options .server with
      | error error => simp
      | ok negotiation =>
        rw [Except.ok.injEq, Prod.mk.injEq, Except.ok.injEq]
        exact and_congr_left' eq_comm
    · simp [version]

/-- The extractor serves a request as the other entry does. -/
theorem serve_entry (entry : Entry) :
    serve features accept entry request options =
      (upgradeWithOptions features accept request options).toOption := by
  cases entry with
  | hyper => rfl
  | axum =>
    simp only [serve, IncomingUpgrade.fromRequestParts, IncomingUpgrade.keyOf, upgradeWithOptions,
      handshakeResponse]
    by_cases extended : isExtendedConnect features request
    · by_cases version : request.headers.get .secWebSocketVersion = some (textBytes "13")
      · simp only [extended, version]
        rfl
      · simp [extended, version, throw, throwThe, MonadExceptOf.throw, bind, Except.bind]
        rfl
    · cases key : request.headers.get .secWebSocketKey with
      | none => simp [extended, bind, Except.bind, Except.toOption]
      | some key =>
        by_cases version : request.headers.get .secWebSocketVersion = some (textBytes "13")
        · simp only [extended, version]
          rfl
        · simp [extended, version, throw, throwThe, MonadExceptOf.throw, bind, Except.bind]
          rfl

theorem serve_eq_some {entry : Entry} {response : Response} {server : Negotiation} :
    serve features accept entry request options = some (response, server) ↔
      upgradeWithOptions features accept request options = .ok (response, server) := by
  rw [serve_entry]
  cases upgradeWithOptions features accept request options with
  | error error => simp [Except.toOption]
  | ok served => simp [Except.toOption]

/-- The server always has settings for its own answer. -/
theorem server_settings (features : Features) (options : Options) (lines : List Bytes) :
    ∃ server, Negotiation.new (answerFor features options lines) options .server = .ok server := by
  cases answered : answerFor features options lines with
  | none => exact ⟨_, rfl⟩
  | some answer =>
    cases deflate : options.compression with
    | none => simp [answerFor, WebSocketExtensions.agree, deflate] at answered
    | some deflate' =>
      simp only [Negotiation.new, CompressionConfig.resolve, deflate, Option.map_some]
      exact ⟨_, rfl⟩

end Server

section Settings

variable {answer : Option WebSocketExtensions}

/-- A client has settings for every answer, unless it is one to an offer it did not
make. -/
theorem client_settings_iff (answer : Option WebSocketExtensions) (options : Options) :
    (∃ client, Negotiation.new answer options .client = .ok client) ↔
      (options.compression = none → answer = none) := by
  unfold Negotiation.new CompressionConfig.resolve
  cases answer with
  | none => simp
  | some answer =>
    cases options.compression with
    | none => simp
    | some deflate => simp

/-- Both sides take the same answer up, each from its end. -/
theorem settings_mirrored {clientOptions serverOptions : Options} {client server : Negotiation}
    (clientSide : Negotiation.new answer clientOptions .client = .ok client)
    (serverSide : Negotiation.new answer serverOptions .server = .ok server) :
    Mirrored client server := by
  unfold Negotiation.new CompressionConfig.resolve at clientSide serverSide
  cases answer with
  | none =>
    simp only [Except.ok.injEq] at clientSide serverSide
    subst clientSide serverSide
    trivial
  | some answer =>
    cases clientDeflate : clientOptions.compression with
    | none => simp [clientDeflate] at clientSide
    | some deflate =>
      cases serverDeflate : serverOptions.compression with
      | none => simp [serverDeflate] at serverSide
      | some deflate' =>
        simp only [clientDeflate, serverDeflate, Option.map_some, Except.ok.injEq]
          at clientSide serverSide
        subst clientSide serverSide
        exact ⟨rfl, rfl⟩

end Settings

section Client

variable {answer : Option WebSocketExtensions}

/-- A header that the answer does not touch. -/
theorem withAnswer_getAll (base : Response) (answer : Option WebSocketExtensions)
    {name : HeaderName} (other : .secWebSocketExtensions ≠ name) :
    (base.withAnswer answer).headers.getAll name = base.headers.getAll name := by
  cases answer with
  | none => rfl
  | some answer => simp [Response.withAnswer, HeaderMap.getAll_append, other]

/-- The client reads the answer that the server wrote. -/
theorem fromHeaders_withAnswer {base : Response} (silent : base.headers.getAll .secWebSocketExtensions = [])
    (named : ∀ answer', answer = some answer' → answer'.Named) :
    WebSocketExtensions.fromHeaders (base.withAnswer answer).headers = answer := by
  unfold WebSocketExtensions.fromHeaders HeaderMap.get
  cases answer with
  | none => simp [Response.withAnswer, silent]
  | some answer =>
    simp [Response.withAnswer, HeaderMap.getAll_append, silent,
      toStr_asBytes (printable_display answer), WebSocketExtensions.fromStr_display (named answer rfl)]

/-- The response of an ordinary handshake, before the answer. -/
def switching (accept : Bytes → Bytes) (key : Bytes) : Response where
  status := 101
  headers := [(.connection, textBytes "upgrade"), (.upgrade, textBytes "websocket"),
    (.secWebSocketAccept, accept key)]

/-- The client checks the value that was made from its own key. -/
theorem verify_switching (accept : Bytes → Bytes) (used key : Bytes) (options : Options)
    (named : ∀ answer', answer = some answer' → answer'.Named) :
    verify accept ((switching accept used).withAnswer answer) key options =
      if accept used = accept key then Negotiation.new answer options .client
      else .error .invalidUpgradeHeader := by
  have websocket : toStr (textBytes "websocket") = some "websocket".toList := by decide
  have upgrade : toStr (textBytes "upgrade") = some "upgrade".toList := by decide
  have listed : (splitAt ',' "upgrade".toList).any (fun option =>
      eqIgnoreAsciiCase (trimSpace option) "upgrade".toList) := by decide
  have same : eqIgnoreAsciiCase "websocket".toList "websocket".toList := by decide
  have upgradeHeader : ((switching accept used).withAnswer answer).headers.get .upgrade =
      some (textBytes "websocket") := by
    rw [HeaderMap.get, withAnswer_getAll _ _ (by decide)]
    rfl
  have connectionHeader : ((switching accept used).withAnswer answer).headers.getAll .connection =
      [textBytes "upgrade"] := withAnswer_getAll _ _ (by decide)
  have acceptHeader : ((switching accept used).withAnswer answer).headers.get .secWebSocketAccept =
      some (accept used) := by
    rw [HeaderMap.get, withAnswer_getAll _ _ (by decide)]
    rfl
  have status : ((switching accept used).withAnswer answer).status = 101 := rfl
  rw [verify, if_neg (by rw [status]; decide), verifyUpgrade, if_neg (by rw [status]; decide),
    if_neg (by simpa [upgradeHeader, websocket] using same),
    if_neg (by simpa [connectionListsUpgrade, connectionHeader, upgrade] using listed),
    acceptHeader, fromHeaders_withAnswer rfl named]
  by_cases accepted : accept used = accept key
  · simp [verifyAccept, accepted]
  · simp [verifyAccept, accepted]

private theorem http2_verify_ok (options : Options)
    (named : ∀ answer', answer = some answer' → answer'.Named) :
    Http2.verify (Response.withAnswer { status := 200, headers := [] } answer) options =
      Negotiation.new answer options .client := by
  have status : (Response.withAnswer { status := 200, headers := [] } answer).status = 200 := rfl
  rw [Http2.verify, if_neg (by rw [status]; decide), fromHeaders_withAnswer rfl named]

end Client

section Outcome

variable (version : HttpVersion) (entry : Entry) (clientFeatures serverFeatures : Features)
  (accept : Bytes → Bytes) (display : Host → Text) (url : Url) (key : Bytes)
  (clientOptions serverOptions : Options) (builder : HeaderMap)

/-- The request is served, and the client takes the response. -/
def Established (client server : Negotiation) : Prop :=
  ∃ request response,
    version.request clientFeatures display url key clientOptions builder = some request ∧
    serve serverFeatures accept entry request serverOptions = some (response, server) ∧
    version.verify accept key response clientOptions = .ok client

/-- What the URL and the caller's headers must not spoil. Over HTTP/1.1 the server
reads the headers in front of the client's own. -/
def Admissible : Prop :=
  match version with
  | .http1 => url.Addressed builder ∧
      (builder.get .secWebSocketVersion).all (· = textBytes "13") ∧
      (builder.get .secWebSocketKey).all (accept · = accept key)
  | .http2 => isWeb url.scheme ∧ serverFeatures.http2

private theorem handshakeResponse_http1 (host : Bytes) :
    handshakeResponse serverFeatures accept
        (http1Request clientFeatures host key clientOptions builder) =
      .ok (switching accept ((builder.get .secWebSocketKey).getD key)) := by
  have ordinary : isExtendedConnect serverFeatures
      (http1Request clientFeatures host key clientOptions builder) = false := by
    simp [isExtendedConnect, http1Request]
  rw [handshakeResponse, ordinary, http1Request_key]
  cases builder.get .secWebSocketKey with
  | none => rfl
  | some used => rfl

theorem named_answerFor (lines : List Bytes) (answer : WebSocketExtensions)
    (answered : answerFor serverFeatures serverOptions lines = some answer) : answer.Named :=
  WebSocketExtensions.agree_named answered

private theorem admissible_http1_iff :
    Admissible .http1 serverFeatures accept url key builder ↔ url.Addressed builder ∧
      (builder.get .secWebSocketVersion).or (some (textBytes "13")) = some (textBytes "13") ∧
        accept ((builder.get .secWebSocketKey).getD key) = accept key := by
  unfold Admissible
  apply and_congr_right'
  apply and_congr
  · cases builder.get .secWebSocketVersion with
    | none => simp
    | some spoken => simp
  · cases builder.get .secWebSocketKey with
    | none => simp
    | some used => simp

/-- The answer to what the client offered. -/
def agreedAnswer : Option WebSocketExtensions :=
  answerFor serverFeatures serverOptions (offeredLines clientFeatures clientOptions builder)

/-- The settings of both sides come from one answer. -/
structure Settled (client server : Negotiation) : Prop where
  client : Negotiation.new (agreedAnswer clientFeatures serverFeatures clientOptions serverOptions
    builder) clientOptions .client = .ok client
  server : Negotiation.new (agreedAnswer clientFeatures serverFeatures clientOptions serverOptions
    builder) serverOptions .server = .ok server

variable {client server : Negotiation}

private theorem established_http1_iff :
    Established .http1 entry clientFeatures serverFeatures accept display url key clientOptions
        serverOptions builder client server ↔
      Admissible .http1 serverFeatures accept url key builder ∧
      Settled clientFeatures serverFeatures clientOptions serverOptions builder client server := by
  have verified (used : Bytes) := verify_switching accept used key clientOptions
    (named_answerFor serverFeatures serverOptions (offeredLines clientFeatures clientOptions builder))
  rw [admissible_http1_iff]
  constructor
  · rintro ⟨request, response, built, served, taken⟩
    have addressed := (url.http1Request_isSome ..).mp (Option.isSome_iff_exists.mpr ⟨_, built⟩)
    obtain ⟨host, rfl⟩ := url.http1Request_some _ _ built
    rw [serve_eq_some, upgradeWithOptions_ok, http1Request_version, http1Request_extensions,
      handshakeResponse_http1] at served
    obtain ⟨spoken, base, ⟨⟩, rfl, serverSide⟩ := served
    rw [HttpVersion.verify, verified] at taken
    split at taken
    · rename_i accepted
      exact ⟨⟨addressed, spoken, accepted⟩, taken, serverSide⟩
    · cases taken
  · rintro ⟨⟨addressed, spoken, accepted⟩, clientSide, serverSide⟩
    obtain ⟨request, built⟩ := Option.isSome_iff_exists.mp
      ((url.http1Request_isSome clientFeatures display key clientOptions builder).mpr addressed)
    obtain ⟨host, rfl⟩ := url.http1Request_some _ _ built
    refine ⟨_, (switching accept ((builder.get .secWebSocketKey).getD key)).withAnswer
      (agreedAnswer clientFeatures serverFeatures clientOptions serverOptions builder), built, ?_, ?_⟩
    · rw [serve_eq_some, upgradeWithOptions_ok, http1Request_version, http1Request_extensions,
        handshakeResponse_http1]
      exact ⟨spoken, _, rfl, rfl, serverSide⟩
    · rw [HttpVersion.verify, agreedAnswer, verified, if_pos accepted]
      exact clientSide

/-- An extended CONNECT carries the caller's headers, but for the version and the
offers. -/
structure ExtendedConnect (request : Request) : Prop where
  method : request.method = .connect
  protocol : request.protocol = some "websocket"
  version : request.headers.getAll .secWebSocketVersion = [textBytes "13"]
  extensions : request.headers.getAll .secWebSocketExtensions =
    offeredLines clientFeatures clientOptions builder
  caller : ∀ name, name ≠ .secWebSocketVersion → name ≠ .secWebSocketExtensions →
    request.headers.getAll name = builder.getAll name

theorem http2_scheme_iff : (∃ scheme, Http2.scheme url = .ok scheme) ↔ isWeb url.scheme := by
  unfold Http2.scheme isWeb
  generalize url.scheme = scheme
  by_cases plain : scheme = "ws".toList ∨ scheme = "http".toList
  · rcases plain with rfl | rfl
    · simp
    · simp
  · by_cases secure : scheme = "wss".toList ∨ scheme = "https".toList
    · rcases secure with rfl | rfl
      · simp
      · simp
    · rw [not_or] at plain secure
      simp only [plain, secure, decide_false, Bool.or_self, Bool.false_eq_true, ↓reduceIte,
        reduceCtorEq, exists_false]

/-- A request is built for every URL of these schemes. -/
theorem request_http2 :
    (∀ request, HttpVersion.request .http2 clientFeatures display url key clientOptions builder =
        some request →
      isWeb url.scheme ∧ ExtendedConnect clientFeatures clientOptions builder request) ∧
    (isWeb url.scheme → ∃ request,
      HttpVersion.request .http2 clientFeatures display url key clientOptions builder =
        some request) := by
  rw [← http2_scheme_iff]
  simp only [HttpVersion.request, Http2.buildRequest]
  cases found : Http2.scheme url with
  | error error => simp [bind, Except.bind, Except.toOption]
  | ok scheme =>
    refine ⟨?_, fun _ => ⟨_, rfl⟩⟩
    rintro request ⟨⟩
    refine ⟨⟨scheme, rfl⟩, rfl, rfl, ?_, ?_, ?_⟩
    · cases clientOptions.compression with
      | none => simp [HeaderMap.getAll_insert]
      | some compression => simp [HeaderMap.getAll_insert]
    · unfold offeredLines
      cases clientOptions.compression with
      | none => simp [HeaderMap.getAll_insert]
      | some compression => simp [HeaderMap.getAll_insert]
    · intro name version extensions
      cases clientOptions.compression with
      | none => simp [HeaderMap.getAll_insert, version.symm]
      | some compression => simp [HeaderMap.getAll_insert, version.symm, extensions.symm]

/-- Only an extended CONNECT is answered without switching. -/
theorem handshakeResponse_status {request : Request} {base : Response}
    (made : handshakeResponse serverFeatures accept request = .ok base) :
    (serverFeatures.http2 ∧ base = { status := 200, headers := [] }) ∨ base.status = 101 := by
  unfold handshakeResponse at made
  split at made
  · rename_i served
    simp only [isExtendedConnect, Bool.and_eq_true] at served
    exact .inl ⟨served.1.1, (Except.ok.inj made).symm⟩
  · split at made
    · cases made
    · cases made
      exact .inr rfl

private theorem established_http2_iff :
    Established .http2 entry clientFeatures serverFeatures accept display url key clientOptions
        serverOptions builder client server ↔
      Admissible .http2 serverFeatures accept url key builder ∧
      Settled clientFeatures serverFeatures clientOptions serverOptions builder client server := by
  have verified := http2_verify_ok clientOptions
    (named_answerFor serverFeatures serverOptions (offeredLines clientFeatures clientOptions builder))
  obtain ⟨shape, exists'⟩ := request_http2 clientFeatures display url key clientOptions builder
  constructor
  · rintro ⟨request, response, built, served, taken⟩
    obtain ⟨web, extended⟩ := shape request built
    rw [serve_eq_some, upgradeWithOptions_ok, extended.extensions] at served
    obtain ⟨-, base, made, rfl, serverSide⟩ := served
    rcases handshakeResponse_status _ _ made with ⟨http2, rfl⟩ | switched
    · rw [HttpVersion.verify, verified] at taken
      exact ⟨⟨web, http2⟩, taken, serverSide⟩
    · have status : (base.withAnswer (answerFor serverFeatures serverOptions
          (offeredLines clientFeatures clientOptions builder))).status = 101 := switched
      rw [HttpVersion.verify, Http2.verify, status] at taken
      cases taken
  · rintro ⟨⟨web, http2⟩, clientSide, serverSide⟩
    obtain ⟨request, built⟩ := exists' web
    obtain ⟨-, extended⟩ := shape request built
    have made : handshakeResponse serverFeatures accept request =
        .ok { status := 200, headers := [] } := by
      rw [handshakeResponse, if_pos]
      simp [isExtendedConnect, extended.method, extended.protocol, http2]
    refine ⟨request, _, built, ?_, verified.trans clientSide⟩
    rw [serve_eq_some, upgradeWithOptions_ok, extended.extensions, HeaderMap.get, extended.version]
    exact ⟨rfl, _, made, rfl, serverSide⟩

/-- A handshake succeeds exactly if URL and caller's headers do not stand in its way and
no compression is agreed that the client has no settings for. Whenever it does, the
settings of the two ends mirror each other. -/
theorem handshake_iff :
    ((∃ client server, Established version entry clientFeatures serverFeatures accept display url
        key clientOptions serverOptions builder client server) ↔
      Admissible version serverFeatures accept url key builder ∧
        (clientOptions.compression = none →
          answerFor serverFeatures serverOptions (builder.getAll .secWebSocketExtensions) = none)) ∧
    ∀ client server, Established version entry clientFeatures serverFeatures accept display url
      key clientOptions serverOptions builder client server → Mirrored client server := by
  have established (client server : Negotiation) :
      Established version entry clientFeatures serverFeatures accept display url key clientOptions
          serverOptions builder client server ↔
        Admissible version serverFeatures accept url key builder ∧
        Settled clientFeatures serverFeatures clientOptions serverOptions builder client server := by
    cases version with
    | http1 => exact established_http1_iff ..
    | http2 => exact established_http2_iff ..
  have offers (silent : clientOptions.compression = none) :
      agreedAnswer clientFeatures serverFeatures clientOptions serverOptions builder =
        answerFor serverFeatures serverOptions (builder.getAll .secWebSocketExtensions) := by
    simp [agreedAnswer, offeredLines, silent]
  constructor
  · constructor
    · rintro ⟨client, server, done⟩
      obtain ⟨admissible, settled⟩ := (established client server).mp done
      refine ⟨admissible, ?_⟩
      intro silent
      rw [← offers silent]
      exact (client_settings_iff _ clientOptions).mp ⟨client, settled.client⟩ silent
    · rintro ⟨admissible, unanswered⟩
      obtain ⟨server, serverSide⟩ := server_settings serverFeatures serverOptions
        (offeredLines clientFeatures clientOptions builder)
      obtain ⟨client, clientSide⟩ := (client_settings_iff (agreedAnswer clientFeatures serverFeatures
        clientOptions serverOptions builder) clientOptions).mpr fun silent =>
          (offers silent).trans (unanswered silent)
      exact ⟨client, server, (established client server).mpr ⟨admissible, clientSide, serverSide⟩⟩
  · intro client server done
    obtain ⟨-, settled⟩ := (established client server).mp done
    exact settings_mirrored settled.client settled.server

end Outcome

end Yawc
