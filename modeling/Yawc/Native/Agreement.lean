import Yawc.Native.Handshake

/-! A client takes from the server's response the settings the server runs with. -/

namespace Yawc

section Text

/-- The characters a written extension is made of. -/
def Printable (char : Char) : Prop := 32 ≤ char.toNat ∧ char.toNat < 127

instance (char : Char) : Decidable (Printable char) := inferInstanceAs (Decidable (_ ∧ _))

private theorem encode_printable {char : Char} (printable : Printable char) :
    String.utf8EncodeChar char = [UInt8.ofNat char.toNat] := by
  have small : char.utf8Size = 1 := by
    rw [Char.utf8Size_eq_one_iff, UInt32.le_iff_toNat_le]
    exact Nat.le_of_lt_succ (Nat.lt_succ_of_lt printable.2)
  rw [String.utf8EncodeChar_eq_singleton small]
  rfl

theorem toStr_asBytes {text : Text} (printable : ∀ char ∈ text, Printable char) :
    toStr (asBytes text) = some text := by
  have encoded : asBytes text = text.map fun char => UInt8.ofNat char.toNat := by
    induction text with
    | nil => rfl
    | cons char text ih =>
      have rest := ih fun char member => printable char (by simp [member])
      simp only [asBytes, List.flatMap_cons, List.map_cons] at rest ⊢
      rw [rest, encode_printable (printable char (by simp))]
      rfl
  have whole : ∀ char ∈ text, (UInt8.ofNat char.toNat).toNat = char.toNat := by
    intro char member
    have := (printable char member).2
    simp
    omega
  have visible : (asBytes text).all isVisible := by
    rw [encoded, List.all_map, List.all_eq_true]
    intro char member
    have same := whole char member
    obtain ⟨low, high⟩ := printable char member
    simp only [Function.comp, isVisible, Bool.or_eq_true, Bool.and_eq_true, decide_eq_true_eq,
      UInt8.le_iff_toNat_le, UInt8.lt_iff_toNat_lt, same]
    exact .inl ⟨low, high⟩
  rw [toStr, if_pos visible, encoded, List.map_map]
  congr 1
  conv => rhs; rw [← List.map_id text]
  apply List.map_congr_left
  intro char member
  simp [whole char member]

private theorem printable_key {char : Char} (key : isKeyChar char) : Printable char := by
  simp only [isKeyChar, Char.isAlphanum, Char.isAlpha, Char.isUpper, Char.isLower, Char.isDigit,
    Bool.or_eq_true, Bool.and_eq_true, decide_eq_true_eq, ge_iff_le, UInt32.le_iff_toNat_le] at key
  rcases key with ((⟨low, high⟩ | ⟨low, high⟩) | ⟨low, high⟩) | rfl
  · exact ⟨Nat.le_trans (by decide) low, Nat.lt_of_le_of_lt high (by decide)⟩
  · exact ⟨Nat.le_trans (by decide) low, Nat.lt_of_le_of_lt high (by decide)⟩
  · exact ⟨Nat.le_trans (by decide) low, Nat.lt_of_le_of_lt high (by decide)⟩
  · decide

theorem printable_display (extensions : WebSocketExtensions) :
    ∀ char ∈ extensions.display, Printable char := by
  have name : ∀ char ∈ permessageDeflate, Printable char := every_char (by decide)
  rw [extensions.display_eq]
  intro char member
  rcases List.mem_append.mp member with inName | inParts
  · exact name char inName
  · obtain ⟨⟨key, window⟩, part, written⟩ := List.mem_flatMap.mp inParts
    have plain := extensions.parts_plain _ part
    simp only [Part.write, List.mem_append] at written
    rcases written with (separator | inKey) | inValue
    · exact every_char (by decide) char separator
    · exact printable_key (plain.word char inKey)
    · cases window with
      | none => simp at inValue
      | some bits =>
        rcases List.mem_cons.mp inValue with rfl | inNumber
        · decide
        · exact printable_key
            (by simp [isKeyChar, Char.isAlphanum, (decimal_digits (plain.window bits rfl)).2 char inNumber])

end Text

namespace HeaderMap

theorem getAll_append (headers : HeaderMap) (name other : HeaderName) (value : Bytes) :
    (headers.append other value).getAll name =
      headers.getAll name ++ if other = name then [value] else [] := by
  by_cases same : other = name <;> simp [getAll, append, same]

theorem getAll_insert (headers : HeaderMap) (name other : HeaderName) (value : Bytes) :
    (headers.insert other value).getAll name =
      if other = name then [value] else headers.getAll name := by
  by_cases same : other = name
  · subst same
    simp [getAll, insert, List.filter_filter]
  · simp only [getAll, insert, List.filter_append, List.filter_filter, same, List.filter_cons,
      List.filter_nil, decide_false, Bool.false_eq_true, ↓reduceIte, List.append_nil]
    congr 1
    apply List.filter_congr
    intro header _
    by_cases found : header.1 = name
    · simp [found, Ne.symm same]
    · simp [found]

/-- Headers that are no WebSocket headers hold none of them. -/
theorem getAll_plain {headers : HeaderMap} (plain : ∀ header ∈ headers, ¬ header.1.isSecWebSocket)
    {name : HeaderName} (reserved : name.isSecWebSocket) : headers.getAll name = [] := by
  have none : headers.filter (·.1 = name) = [] := by
    rw [List.filter_eq_nil_iff]
    rintro header member
    simp only [decide_eq_true_eq]
    rintro rfl
    exact plain header member reserved
  simp [getAll, none]

end HeaderMap

section Request

variable (features : Features) (host key : Bytes) (options : Options) {builder : HeaderMap}

/-- The WebSocket headers of a request are the ones the client sets itself. -/
private theorem getAll_request (plain : ∀ header ∈ builder, ¬ header.1.isSecWebSocket)
    {name : HeaderName} (reserved : name.isSecWebSocket) :
    (http1Request features host key options builder).headers.getAll name =
      (if .secWebSocketKey = name then [key] else []) ++
      (if .secWebSocketVersion = name then [textBytes "13"] else []) ++
      match options.compression with
      | some compression => if .secWebSocketExtensions = name then
          [asBytes (WebSocketExtensions.ofOptions features.backend compression).display] else []
      | none => [] := by
  have caller := HeaderMap.getAll_plain plain reserved
  have filled : (if builder.containsKey .host then builder else builder.append .host host).getAll
      name = [] := by
    split
    · exact caller
    · rw [HeaderMap.getAll_append, caller, if_neg (by rintro rfl; contradiction)]
      rfl
  have up : HeaderName.upgrade ≠ name := by rintro rfl; contradiction
  have conn : HeaderName.connection ≠ name := by rintro rfl; contradiction
  unfold http1Request
  cases options.compression with
  | none => simp [HeaderMap.getAll_append, filled, up, conn]
  | some compression =>
    simp only [HeaderMap.getAll_insert, HeaderMap.getAll_append, filled, up, conn]
    by_cases extensions : HeaderName.secWebSocketExtensions = name
    · subst extensions
      simp
    · simp [extensions]

end Request

/-- The response to a request that passed, with the answer to its offers. -/
private def accepted (accept : Bytes → Bytes) (key : Bytes) (answer : Option WebSocketExtensions) :
    Response where
  status := 101
  headers :=
    let headers : HeaderMap := [(.connection, textBytes "upgrade"),
      (.upgrade, textBytes "websocket"), (.secWebSocketAccept, accept key)]
    match answer with
    | some answer => headers.append .secWebSocketExtensions (asBytes answer.display)
    | none => headers

/-- The client takes over exactly the parameters the server answered with. -/
private theorem verify_accepted (accept : Bytes → Bytes) (key : Bytes) (options : Options)
    {answer : Option WebSocketExtensions} (named : ∀ answer', answer = some answer' → answer'.Named) :
    verify accept (accepted accept key answer) key options =
      Negotiation.new answer options .client := by
  have websocket : toStr (textBytes "websocket") = some "websocket".toList := by decide
  have upgrade : toStr (textBytes "upgrade") = some "upgrade".toList := by decide
  have listed : (splitAt ',' "upgrade".toList).any (fun option =>
      eqIgnoreAsciiCase (trimSpace option) "upgrade".toList) := by decide
  have same : eqIgnoreAsciiCase "websocket".toList "websocket".toList := by decide
  have extensions : WebSocketExtensions.fromHeaders (accepted accept key answer).headers = answer := by
    cases answer with
    | none => rfl
    | some answer =>
      simp only [WebSocketExtensions.fromHeaders, accepted, HeaderMap.get, HeaderMap.getAll_append]
      simp [HeaderMap.getAll, toStr_asBytes (printable_display answer),
        WebSocketExtensions.fromStr_display (named answer rfl)]
  have upgradeHeader : (accepted accept key answer).headers.get .upgrade =
      some (textBytes "websocket") := by
    cases answer <;> simp [accepted, HeaderMap.get, HeaderMap.getAll, HeaderMap.append]
  have connectionHeader : (accepted accept key answer).headers.getAll .connection =
      [textBytes "upgrade"] := by
    cases answer <;> simp [accepted, HeaderMap.getAll, HeaderMap.append]
  have acceptHeader : (accepted accept key answer).headers.get .secWebSocketAccept =
      some (accept key) := by
    cases answer <;> simp [accepted, HeaderMap.get, HeaderMap.getAll, HeaderMap.append]
  have status : (accepted accept key answer).status = 101 := rfl
  rw [verify, if_neg (by rw [status]; decide), verifyUpgrade, if_neg (by rw [status]; decide),
    if_neg (by simpa [upgradeHeader, websocket] using same),
    if_neg (by simpa [connectionListsUpgrade, connectionHeader, upgrade] using listed),
    acceptHeader, extensions]
  simp [verifyAccept]

/-- The settings of the two ends fit together: no compression on either, or each
end reads with the settings the other writes with. -/
def Mirrored (client server : Negotiation) : Prop :=
  match client.compression, server.compression with
  | none, none => True
  | some client, some server =>
    client.outgoing = server.incoming ∧ client.incoming = server.outgoing
  | _, _ => False

/-- Whatever the two sides prefer, the client accepts the server's response, and
both end up with the settings of one answer. -/
theorem handshake_mirrored (clientFeatures serverFeatures : Features) (accept : Bytes → Bytes)
    (host key : Bytes) (clientOptions serverOptions : Options) (builder : HeaderMap)
    (plain : ∀ header ∈ builder, ¬ header.1.isSecWebSocket) :
    ∃ response server client,
      upgradeWithOptions serverFeatures accept
          (http1Request clientFeatures host key clientOptions builder) serverOptions =
        .ok (response, server) ∧
      verify accept response key clientOptions = .ok client ∧ Mirrored client server := by
  let request := http1Request clientFeatures host key clientOptions builder
  let offers := Offer.offers ((request.headers.getAll .secWebSocketExtensions).map toStr)
  let answer := WebSocketExtensions.agree serverFeatures.backend serverOptions.compression offers
  have keyHeader : request.headers.get .secWebSocketKey = some key := by
    simp only [HeaderMap.get, request]
    rw [getAll_request clientFeatures host key clientOptions plain rfl]
    cases clientOptions.compression <;> simp
  have versionHeader : request.headers.get .secWebSocketVersion = some (textBytes "13") := by
    simp only [HeaderMap.get, request]
    rw [getAll_request clientFeatures host key clientOptions plain rfl]
    cases clientOptions.compression <;> simp
  have ordinary : isExtendedConnect serverFeatures request = false := by
    simp [isExtendedConnect, request, http1Request]
  have named : ∀ answer', answer = some answer' → answer'.Named := fun answer' agreed =>
    WebSocketExtensions.agree_named agreed
  have upgraded : ∀ negotiation, Negotiation.new answer serverOptions .server = .ok negotiation →
      upgradeWithOptions serverFeatures accept request serverOptions =
        .ok (accepted accept key answer, negotiation) := by
    intro negotiation built
    simp only [upgradeWithOptions, handshakeResponse, ordinary, keyHeader, versionHeader]
    simp only [answer, offers] at built
    simp only [built, accepted, answer, offers]
    rfl
  have verified := verify_accepted accept key clientOptions named
  cases outcome : answer with
  | none =>
    rw [outcome] at upgraded verified
    exact ⟨_, _, _, upgraded _ rfl, verified, trivial⟩
  | some agreed =>
    rw [outcome] at upgraded verified
    -- An answer needs a server that compresses, and an offer of the client.
    cases serverSide : serverOptions.compression with
    | none => simp [answer, serverSide, WebSocketExtensions.agree] at outcome
    | some serverDeflate =>
      cases clientSide : clientOptions.compression with
      | none =>
        have silent : request.headers.getAll .secWebSocketExtensions = [] := by
          simp only [request]
          rw [getAll_request clientFeatures host key clientOptions plain rfl]
          simp [clientSide]
        simp [answer, offers, silent, serverSide, WebSocketExtensions.agree, Offer.offers] at outcome
      | some clientDeflate =>
        refine ⟨_, _, _, upgraded _ (by simp [Negotiation.new, CompressionConfig.resolve, serverSide]; rfl),
          verified.trans (by simp [Negotiation.new, CompressionConfig.resolve, clientSide]; rfl), ?_⟩
        exact ⟨rfl, rfl⟩

/-- The key and accept value of RFC 6455, a client that offers windows and one
more header, and a server built without zlib. -/
theorem handshake_mirrored_sample :
    let accept : Bytes → Bytes := fun _ => textBytes "s3pPLMBiTxaQ9kYGzzhZRbK+xOo="
    let key := textBytes "dGhlIHNhbXBsZSBub25jZQ=="
    let builder : HeaderMap := [(.other "authorization", textBytes "Bearer token")]
    let client := { Options.default with compression := some ⟨6, some 15, some 3, true, false, 0⟩ }
    let server := { Options.default with compression := some .default }
    ∃ response serverSide clientSide,
      upgradeWithOptions ⟨.miniz, false⟩ accept
          (http1Request ⟨.zlib, false⟩ (textBytes "example.com") key client builder) server =
        .ok (response, serverSide) ∧
      verify accept response key client = .ok clientSide ∧ Mirrored clientSide serverSide :=
  handshake_mirrored ⟨.zlib, false⟩ ⟨.miniz, false⟩ _ _ _ _ _ _ (by decide)

end Yawc
