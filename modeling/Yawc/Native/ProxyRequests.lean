import Yawc.Native.Socks5

/-! A proxy built from its URL, and what a server of the protocol reads in the
requests of a client that dials through it. -/

namespace Yawc.Socks5

section Building

/-- The parts of a parsed URL that a proxy is built from. -/
structure ProxyUrl where
  scheme : Text
  host : Option Host
  username : Text
  password : Option Text
  port : Option UInt16

/-- The parts of the URL libraries that are used: percent-decoding to UTF-8 text,
and the parser of host names. -/
structure UrlLibrary where
  percentDecode : Text → Option Text
  parseHost : Text → Except String Host

inductive ProxyError where
  | unsupportedScheme (scheme : Text)
  | invalidHost (message : String)
  | missingHost
  | invalidCredentials
  | credentialsTooLong

def defaultPort : UInt16 := 1080

def maxCredentialLen : Nat := 255

/-- One half of the user information. -/
def decode (library : UrlLibrary) (value : Text) : Except ProxyError Text :=
  match library.percentDecode value with
  | some decoded => .ok decoded
  | none => .error .invalidCredentials

def proxyHost (library : UrlLibrary) : Option Host → Except ProxyError Host
  | some (.domain domain) => (library.parseHost domain).mapError .invalidHost
  | some host => .ok host
  | none => .error .missingHost

/-- Without a username the password is not even decoded. -/
def proxyAuth (library : UrlLibrary) (url : ProxyUrl) : Except ProxyError (Option Auth) := do
  let username ← decode library url.username
  if username.isEmpty then return none
  else
    let password ← decode library (url.password.getD [])
    return some { username, password }

def Auth.tooLong (self : Auth) : Bool :=
  maxCredentialLen < Utf8.size self.username || maxCredentialLen < Utf8.size self.password

def proxyScheme (scheme : Text) : Except ProxyError Bool :=
  if scheme = "socks5".toList then .ok false
  else if scheme = "socks5h".toList then .ok true
  else .error (.unsupportedScheme scheme)

/-- Refuses credentials that do not fit their length bytes. -/
def checkLength (auth : Option Auth) : Except ProxyError Unit :=
  if (auth.map Auth.tooLong).getD false then .error .credentialsTooLong else .ok ()

def Proxy.socks5 (library : UrlLibrary) (url : ProxyUrl) : Except ProxyError Proxy := do
  let remoteDns ← proxyScheme url.scheme
  let host ← proxyHost library url.host
  let auth ← proxyAuth library url
  checkLength auth
  return { host, port := url.port.getD defaultPort, auth, remoteDns }

/-- Both credentials fit the byte in front of them. -/
structure Auth.Fits (auth : Auth) : Prop where
  named : auth.username ≠ []
  username : Utf8.size auth.username < 256
  password : Utf8.size auth.password < 256

private theorem proxyAuth_named {library : UrlLibrary} {url : ProxyUrl} {auth : Auth}
    (read : proxyAuth library url = .ok (some auth)) : auth.username ≠ [] := by
  unfold proxyAuth at read
  cases decoded : decode library url.username with
  | error error => simp [decoded, bind, Except.bind] at read
  | ok username =>
    simp only [decoded, bind, Except.bind] at read
    split at read
    · simp [pure, Except.pure] at read
    · rename_i some'
      cases decoded' : decode library (url.password.getD []) with
      | error error => simp [decoded'] at read
      | ok password =>
        simp only [decoded', pure, Except.pure, Except.ok.injEq, Option.some.injEq] at read
        subst read
        exact fun empty => some' (List.isEmpty_iff.mpr empty)

private theorem checkLength_ok {auth : Auth} (checked : checkLength (some auth) = .ok ()) :
    Utf8.size auth.username < 256 ∧ Utf8.size auth.password < 256 := by
  unfold checkLength at checked
  split at checked
  · simp at checked
  · rename_i short
    simp only [Option.map_some, Option.getD_some, Auth.tooLong, maxCredentialLen,
      Bool.not_eq_true, Bool.or_eq_false_iff] at short
    have username := of_decide_eq_false short.1
    have password := of_decide_eq_false short.2
    omega

/-- The constructor lets only credentials through that fit. -/
theorem socks5_fits {library : UrlLibrary} {url : ProxyUrl} {proxy : Proxy} {auth : Auth}
    (built : Proxy.socks5 library url = .ok proxy) (configured : proxy.auth = some auth) :
    auth.Fits := by
  unfold Proxy.socks5 at built
  cases scheme : proxyScheme url.scheme with
  | error error => simp [scheme, bind, Except.bind] at built
  | ok remoteDns =>
    cases found : proxyHost library url.host with
    | error error => simp [scheme, found, bind, Except.bind] at built
    | ok host =>
      cases read : proxyAuth library url with
      | error error => simp [scheme, found, read, bind, Except.bind] at built
      | ok credentials =>
        cases checked : checkLength credentials with
        | error error => simp [scheme, found, read, checked, bind, Except.bind] at built
        | ok value =>
          simp only [scheme, found, read, checked, bind, Except.bind, pure, Except.pure,
            Except.ok.injEq] at built
          subst built
          obtain rfl : credentials = some auth := configured
          obtain ⟨username, password⟩ := checkLength_ok checked
          exact ⟨proxyAuth_named read, username, password⟩

end Building

namespace Server

/-- What the requests of one client say. -/
structure Session where
  methods : Bytes
  credentials : Option (Bytes × Bytes)
  kind : AddressType
  address : Bytes
  port : UInt16
  deriving DecidableEq

def byte (expected : UInt8) : Bytes → Option Bytes
  | first :: rest => if first = expected then some rest else none
  | [] => none

def sized (size : Nat) (input : Bytes) : Option (Bytes × Bytes) :=
  if size ≤ input.length then some (input.take size, input.drop size) else none

/-- As many bytes as the first one says. -/
def counted : Bytes → Option (Bytes × Bytes)
  | length :: rest => sized length.toNat rest
  | [] => none

/-- The version and the methods offered. -/
def greeting (input : Bytes) : Option (Bytes × Bytes) := (byte 5 input).bind counted

/-- The version of the password dialogue, the username and the password. -/
def credentials (input : Bytes) : Option ((Bytes × Bytes) × Bytes) := do
  let input ← byte 1 input
  let (username, input) ← counted input
  let (password, input) ← counted input
  return ((username, password), input)

def addressType : Bytes → Option (AddressType × Bytes)
  | code :: rest => (AddressType.fromCode code).map fun kind => (kind, rest)
  | [] => none

def address : AddressType → Bytes → Option (Bytes × Bytes)
  | .ipv4 => sized 4
  | .domain => counted
  | .ipv6 => sized 16

def port (input : Bytes) : Option (UInt16 × Bytes) :=
  (sized 2 input).map fun (bytes, rest) => (UInt16.ofNat (BigEndian.ofBytes bytes), rest)

/-- The version, the command to connect, the reserved byte, and the target. -/
def request (input : Bytes) : Option ((AddressType × Bytes × UInt16) × Bytes) := do
  let input ← byte 5 input
  let input ← byte 1 input
  let input ← byte 0 input
  let (kind, input) ← addressType input
  let (address, input) ← address kind input
  let (port, input) ← port input
  return ((kind, address, port), input)

/-- The credentials come before the request if the next message is of the
password dialogue. -/
def optionalCredentials (input : Bytes) : Option (Option (Bytes × Bytes) × Bytes) :=
  if input.head? = some 1 then (credentials input).map fun (read, rest) => (some read, rest)
  else some (none, input)

def session (input : Bytes) : Option (Session × Bytes) := do
  let (methods, input) ← greeting input
  let (credentials, input) ← optionalCredentials input
  let ((kind, address, port), input) ← request input
  return ({ methods, credentials, kind, address, port }, input)

section Reading

theorem sized_append {front : Bytes} {size : Nat} (whole : front.length = size) (rest : Bytes) :
    sized size (front ++ rest) = some (front, rest) := by
  subst whole
  simp [sized]

/-- A length byte that is not cut, with its bytes behind it. -/
theorem counted_append (bytes : Bytes) (fits : bytes.length < 256) (rest : Bytes) :
    counted (UInt8.ofNat bytes.length :: (bytes ++ rest)) = some (bytes, rest) := by
  apply sized_append
  rw [UInt8.toNat_ofNat', Nat.mod_eq_of_lt fits]

theorem counted_withLength {text : Text} (fits : Utf8.size text < 256) (rest : Bytes) :
    counted (withLength text ++ rest) = some (Utf8.bytes text, rest) :=
  counted_append (Utf8.bytes text) fits rest

private theorem byte_cons (expected : UInt8) (rest : Bytes) : byte expected (expected :: rest) =
    some rest :=
  if_pos rfl

/-- The methods a client offers. -/
def offered (credentials : Bool) : Bytes :=
  if credentials then [Method.none.code, Method.userPass.code] else [Method.none.code]

private theorem greeting_append (credentials : Bool) (rest : Bytes) :
    greeting (Socks5.greeting credentials ++ rest) = some (offered credentials, rest) := by
  cases credentials with
  | false => exact counted_append [Method.none.code] (by decide) rest
  | true => exact counted_append [Method.none.code, Method.userPass.code] (by decide) rest

private theorem credentials_append {auth : Auth} (fits : auth.Fits) (rest : Bytes) :
    credentials (auth.request ++ rest) =
      some ((Utf8.bytes auth.username, Utf8.bytes auth.password), rest) := by
  have opened : byte 1 (auth.request ++ rest) =
      some (withLength auth.username ++ (withLength auth.password ++ rest)) := by
    rw [Auth.request, List.cons_append, List.append_assoc]
    exact byte_cons 1 _
  simp [credentials, opened, counted_withLength fits.username, counted_withLength fits.password]

private theorem port_append (number : UInt16) (rest : Bytes) :
    port (BigEndian.toBytes 2 number.toNat ++ rest) = some (number, rest) := by
  have small : number.toNat < 256 ^ 2 := number.toNat_lt
  rw [port, sized_append (BigEndian.length_toBytes 2 number.toNat) rest]
  simp [BigEndian.ofBytes_toBytes_of_lt small]

end Reading

end Server

section Requests

/-- The address type a target is sent with. -/
def Target.kind : Target → AddressType
  | domain _ _ => .domain
  | v4 _ _ => .ipv4
  | v6 _ _ => .ipv6

/-- The bytes of a name, or the octets of an address. -/
def Target.octets : Target → Bytes
  | domain host _ => Utf8.bytes host
  | v4 address _ => address.1
  | v6 address _ => address.1

def Target.port : Target → UInt16
  | domain _ port | v4 _ port | v6 _ port => port

theorem Target.address_eq (target : Target) :
    ∃ written, target.address = target.kind.code :: written ∧ ∀ rest,
      target.tooLong = false → Server.address target.kind (written ++ rest) =
        some (target.octets, BigEndian.toBytes 2 target.port.toNat ++ rest) := by
  cases target with
  | domain host port =>
    refine ⟨_, rfl, ?_⟩
    intro rest fits
    have short : Utf8.size host < 256 := by
      have bound : ¬ 255 < Utf8.size host := of_decide_eq_false fits
      omega
    rw [List.append_assoc]
    exact Server.counted_withLength short _
  | v4 address port =>
    refine ⟨_, rfl, ?_⟩
    intro rest _
    rw [List.append_assoc]
    exact Server.sized_append address.2 _
  | v6 address port =>
    refine ⟨_, rfl, ?_⟩
    intro rest _
    rw [List.append_assoc]
    exact Server.sized_append address.2 _

private theorem AddressType.fromCode_code (kind : AddressType) : fromCode kind.code =
    some kind := by
  cases kind <;> rfl

private theorem Server.request_append {target : Target} (fits : target.tooLong = false)
    (rest : Bytes) :
    Server.request (target.request ++ rest) =
      some ((target.kind, target.octets, target.port), rest) := by
  obtain ⟨written, split, read⟩ := target.address_eq
  have opened : target.request ++ rest = 5 :: 1 :: 0 :: target.kind.code :: (written ++ rest) := by
    rw [Target.request, split]
    rfl
  simp [Server.request, opened, Server.byte, Server.addressType, AddressType.fromCode_code,
    read rest fits, Server.port_append]

/-- The three messages in a row, with or without credentials. -/
theorem Server.session_append (credentials : Option Auth) (offers : Bool)
    (fit : ∀ auth, credentials = some auth → auth.Fits) {target : Target}
    (fits : target.tooLong = false) (rest : Bytes) :
    Server.session (Socks5.greeting offers ++ ((credentials.map Auth.request).getD [] ++
        (target.request ++ rest))) =
      some ({ methods := offered offers
              credentials := credentials.map fun auth =>
                (Utf8.bytes auth.username, Utf8.bytes auth.password)
              kind := target.kind
              address := target.octets
              port := target.port }, rest) := by
  cases credentials with
  | none =>
    have free : optionalCredentials (target.request ++ rest) = some (none, target.request ++ rest) :=
      if_neg (by simp [Target.request, version])
    simp [session, greeting_append, free, request_append fits]
  | some auth =>
    have asked : optionalCredentials (auth.request ++ (target.request ++ rest)) =
        some (some (Utf8.bytes auth.username, Utf8.bytes auth.password), target.request ++ rest) := by
      have first : (auth.request ++ (target.request ++ rest)).head? = some 1 := rfl
      rw [optionalCredentials, if_pos first, credentials_append (fit auth rfl)]
      rfl
    simp [session, greeting_append, asked, request_append fits]

end Requests

section Runs

private theorem request_ne_greeting (target : Target) (credentials : Bool) :
    target.request ≠ greeting credentials := by
  cases credentials with
  | false =>
    obtain ⟨written, split, -⟩ := target.address_eq
    simp [Target.request, split, greeting]
  | true => simp [Target.request, greeting, version, cmdConnect]

theorem request_ne_credentials (target : Target) (auth : Auth) : target.request ≠ auth.request := by
  simp [Target.request, Auth.request, version, authVersion]

private theorem credentials_ne_greeting (auth : Auth) (credentials : Bool) :
    auth.request ≠ greeting credentials := by
  cases credentials with
  | false => simp [Auth.request, greeting, version, authVersion]
  | true => simp [Auth.request, greeting, version, authVersion]

/-- A negotiation that fails has not written the request. -/
theorem negotiate_failed {proxy : Proxy} {stream : Bytes} {error : Socks5Error}
    {final : Dialogue.Wire UInt8} (target : Target)
    (failed : negotiate proxy ⟨stream, []⟩ = (.error error, final)) :
    .wrote target.request ∉ final.log := by
  have writes : Dialogue.WritesOnly (fun _ items => items ≠ target.request) ⟨stream, []⟩
      (negotiate proxy) :=
    writes_negotiate rfl (request_ne_greeting target _).symm
      fun auth _ => (request_ne_credentials target auth).symm
  obtain ⟨added, logged, legal⟩ := writes
  rw [failed] at logged
  intro member
  obtain ⟨early, late, split⟩ := List.append_of_mem member
  exact legal early target.request late (by rw [← split]; exact logged.symm) rfl

/-- What a run has done that came to its request: the greeting, the credentials
if the proxy asked for them, the request, and reads. -/
theorem connect_log {proxy : Proxy} {target : Target} {stream : Bytes}
    {result : Except Socks5Error Unit} {final : Dialogue.Wire UInt8}
    (ran : connect proxy target ⟨stream, []⟩ = (result, final))
    (asked : .wrote target.request ∈ final.log) :
    target.tooLong = false ∧ ∃ added, (∀ items, .wrote items ∉ added) ∧
      (final.log = ([.wrote (greeting proxy.auth.isSome), .read [5, 0], .wrote target.request] :
          List (Dialogue.Event UInt8)) ++ added ∨
        ∃ auth, proxy.auth = some auth ∧
          final.log = ([.wrote (greeting true), .read [5, 2], .wrote auth.request, .read [1, 0],
            .wrote target.request] : List (Dialogue.Event UInt8)) ++ added) := by
  unfold connect at ran
  split at ran
  · simp only [Dialogue.fail, Prod.mk.injEq] at ran
    rw [← ran.2] at asked
    exact absurd asked List.not_mem_nil
  · rename_i fits
    refine ⟨Bool.eq_false_iff.mpr fits, ?_⟩
    rw [Dialogue.bind_apply, Dialogue.bind] at ran
    cases negotiated : negotiate proxy ⟨stream, []⟩ with
    | mk outcome middle =>
      rw [negotiated] at ran
      cases outcome with
      | error error =>
        obtain ⟨-, rfl⟩ := Prod.mk.inj ran
        exact absurd asked (negotiate_failed target negotiated)
      | ok value =>
        have replies : Dialogue.WritesOnly (fun _ _ => False)
            ⟨middle.unread, middle.log ++ [.wrote target.request]⟩ readReply := writes_readReply
        obtain ⟨added, logged, quiet⟩ := replies.silent
        refine ⟨added, quiet, ?_⟩
        have after : final.log = middle.log ++ [.wrote target.request] ++ added := by
          rw [← logged]
          exact congrArg (fun ended => ended.2.log) ran.symm
        rcases negotiate_ok.mp negotiated with ⟨-, before⟩ | ⟨auth, configured, -, before⟩
        · left
          rw [after, before]
          rfl
        · right
          refine ⟨auth, configured, ?_⟩
          rw [after, before]
          rfl

/-- The length byte of a text that fits is its length. -/
theorem length_whole {text : Text} (fits : Utf8.size text < 256) :
    (UInt8.ofNat (Utf8.size text)).toNat = Utf8.size text := by
  rw [UInt8.toNat_ofNat', Nat.mod_eq_of_lt fits]

/-- In every run in which the client writes its request, a server reads in what
was written the methods offered, the credentials if they were sent, and the
target, whatever follows. No length byte is cut. -/
theorem requests_decodable {library : UrlLibrary} {url : ProxyUrl} {proxy : Proxy}
    (built : Proxy.socks5 library url = .ok proxy) {target : Target} {stream : Bytes}
    {result : Except Socks5Error Unit} {final : Dialogue.Wire UInt8}
    (ran : connect proxy target ⟨stream, []⟩ = (result, final))
    (asked : .wrote target.request ∈ final.log) :
    (∃ sent : Option Auth,
      (∀ auth, sent = some auth ↔ proxy.auth = some auth ∧ .wrote auth.request ∈ final.log) ∧
      ∀ rest, Server.session (Dialogue.written final.log ++ rest) =
        some ({ methods := Server.offered proxy.auth.isSome
                credentials := sent.map fun auth =>
                  (Utf8.bytes auth.username, Utf8.bytes auth.password)
                kind := target.kind
                address := target.octets
                port := target.port }, rest)) ∧
    (∀ auth, proxy.auth = some auth →
      (UInt8.ofNat (Utf8.size auth.username)).toNat = Utf8.size auth.username ∧
        (UInt8.ofNat (Utf8.size auth.password)).toNat = Utf8.size auth.password) ∧
    ∀ host port, target = .domain host port →
      (UInt8.ofNat (Utf8.size host)).toNat = Utf8.size host := by
  obtain ⟨fits, added, quiet, logged⟩ := connect_log ran asked
  have whole (auth : Auth) (configured : proxy.auth = some auth) : auth.Fits :=
    socks5_fits built configured
  refine ⟨?_, ?_, ?_⟩
  · rcases logged with logged | ⟨auth, configured, logged⟩
    · refine ⟨none, ?_, ?_⟩
      · intro auth
        simp [logged, quiet, credentials_ne_greeting, (request_ne_credentials target auth).symm]
      · intro rest
        have wrote : Dialogue.written final.log = greeting proxy.auth.isSome ++ target.request := by
          rw [logged, Dialogue.written_append, Dialogue.written_eq_nil quiet]
          simp [Dialogue.written]
        rw [wrote, List.append_assoc]
        exact Server.session_append none _ (by simp) fits rest
    · refine ⟨some auth, ?_, ?_⟩
      · intro other
        simp only [configured]
        constructor
        · intro same
          obtain rfl := Option.some.inj same
          exact ⟨rfl, by simp [logged]⟩
        · exact And.left
      · intro rest
        have wrote : Dialogue.written final.log =
            greeting proxy.auth.isSome ++ (auth.request ++ target.request) := by
          rw [logged, Dialogue.written_append, Dialogue.written_eq_nil quiet, configured]
          simp [Dialogue.written]
        rw [wrote, List.append_assoc, List.append_assoc]
        refine Server.session_append (some auth) _ ?_ fits rest
        intro other same
        obtain rfl := Option.some.inj same
        exact whole auth configured
  · intro auth configured
    exact ⟨length_whole (whole auth configured).username, length_whole (whole auth configured).password⟩
  · intro host port same
    subst same
    have bound : ¬ 255 < Utf8.size host := of_decide_eq_false fits
    exact length_whole (by omega)

/-- Libraries that take every text as it is, which is what they do with letters. -/
def UrlLibrary.plain : UrlLibrary where
  percentDecode := some
  parseHost := fun name => .ok (.domain name)

/-- A proxy that asks for credentials without a password, and then goes away. -/
theorem requests_decodable_empty_password :
    ∃ proxy log,
      Proxy.socks5 .plain ⟨"socks5h".toList, some (.domain ['p']), ['u'], none, none⟩ = .ok proxy ∧
      connect proxy (.domain ['w', 's'] 443) ⟨[5, 2, 1, 0], []⟩ =
        (.error .unexpectedEof, ⟨[], log⟩) ∧
      Server.session (Dialogue.written log) =
        some (⟨[0, 2], some ([117], []), .domain, [119, 115], 443⟩, []) := by
  have built : Proxy.socks5 .plain ⟨"socks5h".toList, some (.domain ['p']), ['u'], none, none⟩ =
      .ok ⟨.domain ['p'], 1080, some ⟨['u'], []⟩, true⟩ := by
    have scheme : proxyScheme "socks5h".toList = .ok true := by simp [proxyScheme]
    simp only [Proxy.socks5, scheme]
    rfl
  have ran : connect ⟨.domain ['p'], 1080, some ⟨['u'], []⟩, true⟩ (.domain ['w', 's'] 443)
      ⟨[5, 2, 1, 0], []⟩ = (.error .unexpectedEof, ⟨[], [.wrote [5, 2, 0, 2], .read [5, 2],
        .wrote [1, 1, 117, 0], .read [1, 0], .wrote [5, 1, 0, 3, 2, 119, 115, 1, 187], .read []]⟩) :=
    rfl
  obtain ⟨⟨sent, which, decoded⟩, -⟩ := requests_decodable built ran (by decide)
  obtain rfl : sent = some ⟨['u'], []⟩ := (which _).mpr ⟨rfl, by decide⟩
  refine ⟨_, _, built, ran, ?_⟩
  have read := decoded []
  rw [List.append_nil] at read
  exact read

end Runs

end Yawc.Socks5
