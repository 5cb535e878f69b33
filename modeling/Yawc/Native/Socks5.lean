import Yawc.Library.BigEndian
import Yawc.Library.Dialogue
import Yawc.Library.Utf8
import Yawc.Compression.Extensions

/-! The SOCKS5 client: the dialogue that opens a tunnel through a proxy. -/

namespace Yawc.Socks5

def version : UInt8 := 5

/-- `CMD_CONNECT`. -/
def cmdConnect : UInt8 := 1

/-- The username and password dialogue has a version of its own. -/
def authVersion : UInt8 := 1

def maxHostnameLen : Nat := 255

/-- The authentication methods that can be offered or named by the proxy. -/
inductive Method where
  | none
  | userPass
  | unacceptable
  deriving DecidableEq

namespace Method

def code : Method → UInt8
  | none => 0x00
  | userPass => 0x02
  | unacceptable => 0xFF

def fromCode (code : UInt8) : Option Method :=
  if code = 0x00 then some none
  else if code = 0x02 then some userPass
  else if code = 0xFF then some unacceptable
  else Option.none

theorem fromCode_eq_some {code : UInt8} {method : Method} (read : fromCode code = some method) :
    code = method.code := by
  unfold fromCode at read
  split at read
  · cases read
    assumption
  · split at read
    · cases read
      assumption
    · split at read
      · cases read
        assumption
      · cases read

end Method

inductive AddressType where
  | ipv4
  | domain
  | ipv6
  deriving DecidableEq

namespace AddressType

def code : AddressType → UInt8
  | ipv4 => 1
  | domain => 3
  | ipv6 => 4

def fromCode (code : UInt8) : Option AddressType :=
  if code = 1 then some ipv4
  else if code = 3 then some domain
  else if code = 4 then some ipv6
  else none

theorem fromCode_eq_some {code : UInt8} {kind : AddressType} (read : fromCode code = some kind) :
    code = kind.code := by
  unfold fromCode at read
  split at read
  · cases read
    assumption
  · split at read
    · cases read
      assumption
    · split at read
      · cases read
        assumption
      · cases read

end AddressType

abbrev Octets (size : Nat) := { octets : Bytes // octets.length = size }

inductive Host where
  | domain (name : Text)
  | ipv4 (address : Octets 4)
  | ipv6 (address : Octets 16)

structure Auth where
  username : Text
  password : Text

structure Proxy where
  host : Host
  port : UInt16
  auth : Option Auth
  remoteDns : Bool

/-- Where the proxy is asked to connect to. -/
inductive Target where
  | domain (host : Text) (port : UInt16)
  | v4 (address : Octets 4) (port : UInt16)
  | v6 (address : Octets 16) (port : UInt16)

/-- Why a proxy does not open the tunnel. -/
inductive ReplyCode where
  | generalFailure
  | notAllowed
  | networkUnreachable
  | hostUnreachable
  | connectionRefused
  | ttlExpired
  | commandNotSupported
  | addressTypeNotSupported
  | unassigned (code : UInt8)
  deriving DecidableEq

def ReplyCode.from (code : UInt8) : ReplyCode :=
  if code = 1 then generalFailure
  else if code = 2 then notAllowed
  else if code = 3 then networkUnreachable
  else if code = 4 then hostUnreachable
  else if code = 5 then connectionRefused
  else if code = 6 then ttlExpired
  else if code = 7 then commandNotSupported
  else if code = 8 then addressTypeNotSupported
  else unassigned code

/-- The errors of the dialogue, and the end of the stream. -/
inductive Socks5Error where
  | hostnameTooLong
  | unsupportedVersion (version : UInt8)
  | noAcceptableAuth
  | unsupportedMethod (code : UInt8)
  | authFailed (status : UInt8)
  | rejected (code : ReplyCode)
  | invalidAddressType (code : UInt8)
  | unexpectedEof
  deriving DecidableEq

abbrev Talk := Dialogue UInt8 Socks5Error

section Messages

/-- The greeting with the methods the client can run. -/
def greeting (credentials : Bool) : Bytes :=
  if credentials then [version, 2, Method.none.code, Method.userPass.code]
  else [version, 1, Method.none.code]

/-- A text behind its length, cut to one byte as the cast does. -/
def withLength (text : Text) : Bytes := UInt8.ofNat (Utf8.size text) :: Utf8.bytes text

def Auth.request (self : Auth) : Bytes :=
  authVersion :: (withLength self.username ++ withLength self.password)

def Target.address : Target → Bytes
  | domain host port =>
    AddressType.domain.code :: (withLength host ++ BigEndian.toBytes 2 port.toNat)
  | v4 address port => AddressType.ipv4.code :: (address.1 ++ BigEndian.toBytes 2 port.toNat)
  | v6 address port => AddressType.ipv6.code :: (address.1 ++ BigEndian.toBytes 2 port.toNat)

def Target.request (self : Target) : Bytes := [version, cmdConnect, 0] ++ self.address

end Messages

/-- Reads into a buffer of that many bytes. -/
def readExact (size : Nat) : Talk Bytes := Dialogue.readExact .unexpectedEof size

/-- A byte of a buffer that was filled. -/
def byteAt (buffer : Bytes) (index : Nat) : UInt8 := buffer.getD index 0

def authenticate (auth : Auth) : Talk Unit := do
  Dialogue.writeAll auth.request
  let status ← readExact 2
  if byteAt status 0 ≠ authVersion then Dialogue.fail (.unsupportedVersion (byteAt status 0))
  else if byteAt status 1 ≠ 0 then Dialogue.fail (.authFailed (byteAt status 1))
  else return ()

def negotiate (proxy : Proxy) : Talk Unit := do
  Dialogue.writeAll (greeting proxy.auth.isSome)
  let chosen ← readExact 2
  if byteAt chosen 0 ≠ version then Dialogue.fail (.unsupportedVersion (byteAt chosen 0))
  else
    match Method.fromCode (byteAt chosen 1), proxy.auth with
    | some .none, _ => return ()
    | some .userPass, some auth => authenticate auth
    | some .unacceptable, _ => Dialogue.fail .noAcceptableAuth
    | _, _ => Dialogue.fail (.unsupportedMethod (byteAt chosen 1))

def sendRequest (target : Target) : Talk Unit := Dialogue.writeAll target.request

/-- The length of a bound address, which a name has in front of it. -/
def addressLen (kind : UInt8) : Talk Nat :=
  match AddressType.fromCode kind with
  | some .ipv4 => pure 4
  | some .ipv6 => pure 16
  | some .domain => do
    let len ← readExact 1
    return (byteAt len 0).toNat
  | none => Dialogue.fail (.invalidAddressType kind)

/-- Reads the reply with its bound address, up to the first byte of the target. -/
def readReply : Talk Unit := do
  let head ← readExact 4
  if byteAt head 0 ≠ version then Dialogue.fail (.unsupportedVersion (byteAt head 0))
  else if byteAt head 1 ≠ 0 then Dialogue.fail (.rejected (.from (byteAt head 1)))
  else
    let length ← addressLen (byteAt head 3)
    let _ ← readExact (length + 2)
    return ()

/-- A name that does not fit its length byte is refused before the greeting. -/
def Target.tooLong : Target → Bool
  | domain host _ => maxHostnameLen < Utf8.size host
  | v4 _ _ | v6 _ _ => false

def connect (proxy : Proxy) (target : Target) : Talk Unit := do
  if target.tooLong then Dialogue.fail .hostnameTooLong
  else
    negotiate proxy
    sendRequest target
    readReply

section Outcomes

/-- The answers that let the client go on: no authentication, or its credentials
accepted. -/
inductive Admits (auth : Option Auth) : Bytes → Prop where
  | free : Admits auth [5, 0]
  | password (configured : auth.isSome) : Admits auth [5, 2, 1, 0]

/-- A reply that opens the tunnel, with its bound address and port. -/
inductive Opens : Bytes → Prop where
  | ipv4 {reserved : UInt8} {address port : Bytes} (address' : address.length = 4)
      (port' : port.length = 2) : Opens ([5, 0, reserved, 1] ++ (address ++ port))
  | ipv6 {reserved : UInt8} {address port : Bytes} (address' : address.length = 16)
      (port' : port.length = 2) : Opens ([5, 0, reserved, 4] ++ (address ++ port))
  | domain {reserved length : UInt8} {address port : Bytes}
      (address' : address.length = length.toNat) (port' : port.length = 2) :
      Opens ([5, 0, reserved, 3, length] ++ (address ++ port))

variable {wire final : Dialogue.Wire UInt8}

theorem readExact_ok {size : Nat} {buffer : Bytes} :
    readExact size wire = (.ok buffer, final) ↔
      buffer.length = size ∧ wire.unread = buffer ++ final.unread ∧
        final.log = wire.log ++ [.read buffer] :=
  Dialogue.readExact_ok_iff

private theorem authenticate_ok {auth : Auth} :
    authenticate auth wire = (.ok (), final) ↔
      wire.unread = [1, 0] ++ final.unread ∧
        final.log = wire.log ++
          ([.wrote auth.request, .read [1, 0]] : List (Dialogue.Event UInt8)) := by
  constructor
  · intro done
    simp only [authenticate, Dialogue.bind_ok_iff, Dialogue.writeAll_ok_iff, readExact_ok] at done
    obtain ⟨_, _, rfl, status, after, ⟨size, split, logged⟩, judged⟩ := done
    obtain ⟨first, second, rfl⟩ := List.length_eq_two.mp size
    split at judged
    · simp at judged
    · split at judged
      · simp at judged
      · rename_i version' status'
        obtain rfl : after = final := by simpa using judged
        obtain rfl : first = 1 := by simpa [byteAt, authVersion] using version'
        obtain rfl : second = 0 := by simpa [byteAt] using status'
        exact ⟨split, by simpa using logged⟩
  · rintro ⟨split, logged⟩
    simp only [authenticate, Dialogue.bind_ok_iff, Dialogue.writeAll_ok_iff, readExact_ok]
    refine ⟨(), _, rfl, [1, 0], final, ⟨rfl, split, by simpa using logged⟩, ?_⟩
    simp [byteAt, authVersion]

theorem negotiate_ok {proxy : Proxy} :
    negotiate proxy wire = (.ok (), final) ↔
      (wire.unread = [5, 0] ++ final.unread ∧
        final.log = wire.log ++
          ([.wrote (greeting proxy.auth.isSome), .read [5, 0]] : List (Dialogue.Event UInt8))) ∨
      ∃ auth, proxy.auth = some auth ∧ wire.unread = [5, 2, 1, 0] ++ final.unread ∧
        final.log = wire.log ++ ([.wrote (greeting true), .read [5, 2], .wrote auth.request,
          .read [1, 0]] : List (Dialogue.Event UInt8)) := by
  constructor
  · intro done
    simp only [negotiate, Dialogue.bind_ok_iff, Dialogue.writeAll_ok_iff, readExact_ok] at done
    obtain ⟨_, _, rfl, chosen, after, ⟨size, split, logged⟩, judged⟩ := done
    obtain ⟨first, second, rfl⟩ := List.length_eq_two.mp size
    split at judged
    · simp at judged
    · rename_i version'
      obtain rfl : first = 5 := by simpa [byteAt, version] using version'
      cases method : Method.fromCode (byteAt [5, second] 1) with
      | none => simp [method] at judged
      | some method' =>
        have code : second = method'.code := Method.fromCode_eq_some method
        cases method' with
        | none =>
          obtain rfl : after = final := by simpa [method] using judged
          obtain rfl : second = 0 := code
          exact .inl ⟨split, by simpa using logged⟩
        | unacceptable => simp [method] at judged
        | userPass =>
          obtain rfl : second = 2 := code
          cases configured : proxy.auth with
          | none => simp [method, configured] at judged
          | some auth =>
            simp only [method, configured] at judged
            obtain ⟨split', logged'⟩ := authenticate_ok.mp judged
            refine .inr ⟨auth, rfl, by simpa [split'] using split, ?_⟩
            simp [logged', logged, configured]
  · rintro (⟨split, logged⟩ | ⟨auth, configured, split, logged⟩)
    · simp only [negotiate, Dialogue.bind_ok_iff, Dialogue.writeAll_ok_iff, readExact_ok]
      refine ⟨(), _, rfl, [5, 0], final, ⟨rfl, split, by simpa using logged⟩, ?_⟩
      simp [byteAt, version, Method.fromCode]
    · simp only [negotiate, Dialogue.bind_ok_iff, Dialogue.writeAll_ok_iff, readExact_ok]
      refine ⟨(), _, rfl, [5, 2],
        { unread := [1, 0] ++ final.unread
          log := wire.log ++ [.wrote (greeting true), .read [5, 2]] },
        ⟨rfl, by simpa using split, by simp [configured]⟩, ?_⟩
      simp only [byteAt, version, Method.fromCode, configured]
      exact authenticate_ok.mpr ⟨rfl, by simp [logged]⟩

theorem addressLen_ok {kind : UInt8} {length : Nat} :
    addressLen kind wire = (.ok length, final) ↔
      (kind = 1 ∧ length = 4 ∧ wire = final) ∨ (kind = 4 ∧ length = 16 ∧ wire = final) ∨
      ∃ len : UInt8, kind = 3 ∧ length = len.toNat ∧ wire.unread = len :: final.unread ∧
        final.log = wire.log ++ [.read [len]] := by
  constructor
  · intro done
    unfold addressLen at done
    cases read : AddressType.fromCode kind with
    | none => simp [read] at done
    | some type =>
      have code := AddressType.fromCode_eq_some read
      cases type with
      | ipv4 =>
        simp only [read, Dialogue.pure_ok_iff] at done
        exact .inl ⟨code, done.1.symm, done.2⟩
      | ipv6 =>
        simp only [read, Dialogue.pure_ok_iff] at done
        exact .inr (.inl ⟨code, done.1.symm, done.2⟩)
      | domain =>
        simp only [read, Dialogue.bind_ok_iff, Dialogue.pure_ok_iff, readExact_ok] at done
        obtain ⟨len, after, ⟨size, split, logged⟩, rfl, rfl⟩ := done
        obtain ⟨byte, rfl⟩ := List.length_eq_one_iff.mp size
        exact .inr (.inr ⟨byte, code, rfl, split, logged⟩)
  · rintro (⟨rfl, rfl, rfl⟩ | ⟨rfl, rfl, rfl⟩ | ⟨len, rfl, rfl, split, logged⟩)
    · rfl
    · rfl
    · have domain : AddressType.fromCode 3 = some .domain := rfl
      simp only [addressLen, domain, Dialogue.bind_ok_iff, Dialogue.pure_ok_iff, readExact_ok]
      exact ⟨[len], final, ⟨rfl, split, logged⟩, rfl, rfl⟩

/-- A bound address and port. -/
theorem bound_split {bound : Bytes} {length : Nat} (size : bound.length = length + 2) :
    ∃ address port, bound = address ++ port ∧ address.length = length ∧ port.length = 2 := by
  refine ⟨bound.take length, bound.drop length, (List.take_append_drop ..).symm, ?_, ?_⟩
  · rw [List.length_take]
    omega
  · rw [List.length_drop]
    omega

private theorem readReply_sound (done : readReply wire = (.ok (), final)) :
    ∃ reply, Opens reply ∧ wire.unread = reply ++ final.unread := by
  simp only [readReply, Dialogue.bind_ok_iff, readExact_ok] at done
  obtain ⟨head, after, ⟨size, split, -⟩, judged⟩ := done
  obtain ⟨first, second, reserved, kind, rfl⟩ : ∃ first second reserved kind,
      head = [first, second, reserved, kind] := by
    obtain ⟨first, tail, rfl⟩ := List.exists_cons_of_length_eq_add_one size
    obtain ⟨second, reserved, kind, rfl⟩ := List.length_eq_three.mp (Nat.succ.inj size)
    exact ⟨first, second, reserved, kind, rfl⟩
  split at judged
  · simp at judged
  · rename_i version'
    obtain rfl : first = 5 := by simpa [byteAt, version] using version'
    split at judged
    · simp at judged
    · rename_i status
      obtain rfl : second = 0 := by simpa [byteAt] using status
      simp only [Dialogue.bind_ok_iff, Dialogue.pure_ok_iff, readExact_ok] at judged
      obtain ⟨length, middle, measured, bound, last, ⟨size', split', -⟩, -, rfl⟩ := judged
      obtain ⟨address, port, rfl, address', port'⟩ := bound_split size'
      rcases addressLen_ok.mp measured with
        ⟨kind', rfl, rfl⟩ | ⟨kind', rfl, rfl⟩ | ⟨len, kind', rfl, split'', -⟩
      · obtain rfl : kind = 1 := kind'
        exact ⟨[5, 0, reserved, 1] ++ (address ++ port), .ipv4 address' port', by simp [split, split']⟩
      · obtain rfl : kind = 4 := kind'
        exact ⟨[5, 0, reserved, 4] ++ (address ++ port), .ipv6 address' port', by simp [split, split']⟩
      · obtain rfl : kind = 3 := kind'
        exact ⟨[5, 0, reserved, 3, len] ++ (address ++ port), .domain address' port', by
          simp [split, split', split'']⟩

/-- Reads the parts of a reply one after the other. -/
theorem readReply_complete {reply rest : Bytes} (opens : Opens reply)
    (split : wire.unread = reply ++ rest) :
    ∃ log, readReply wire = (.ok (), ⟨rest, log⟩) := by
  have reads (reserved kind : UInt8) (behind : Bytes) (length : Nat) (middle : Bytes)
      (bound : Bytes) (front : wire.unread = [5, 0, reserved, kind] ++ behind)
      (measured : ∀ log, ∃ log',
        addressLen kind ⟨behind, log⟩ = (.ok length, ⟨middle, log'⟩))
      (size : bound.length = length + 2) (left : middle = bound ++ rest) :
      ∃ log, readReply wire = (.ok (), ⟨rest, log⟩) := by
    obtain ⟨log', measured⟩ := measured (wire.log ++ [.read [5, 0, reserved, kind]])
    refine ⟨log' ++ [.read bound], ?_⟩
    simp only [readReply, Dialogue.bind_ok_iff, readExact_ok]
    refine ⟨[5, 0, reserved, kind], ⟨behind, wire.log ++ [.read [5, 0, reserved, kind]]⟩,
      ⟨by simp, front, rfl⟩, ?_⟩
    simp only [byteAt, version, List.getD_cons_zero, List.getD_cons_succ, ne_eq,
      not_true_eq_false, ↓reduceIte, Dialogue.bind_ok_iff, Dialogue.pure_ok_iff, readExact_ok]
    exact ⟨length, ⟨middle, log'⟩, measured, bound, ⟨rest, log' ++ [.read bound]⟩,
      ⟨size, left, rfl⟩, trivial, rfl⟩
  cases opens with
  | @ipv4 reserved address port address' port' =>
    refine reads reserved 1 (address ++ port ++ rest) 4 _ (address ++ port) (by simp [split])
      (fun log => ⟨log, rfl⟩) (by simp [address', port']) rfl
  | @ipv6 reserved address port address' port' =>
    refine reads reserved 4 (address ++ port ++ rest) 16 _ (address ++ port) (by simp [split])
      (fun log => ⟨log, rfl⟩) (by simp [address', port']) rfl
  | @domain reserved len address port address' port' =>
    refine reads reserved 3 (len :: (address ++ port ++ rest)) len.toNat _ (address ++ port)
      (by simp [split]) (fun log => ⟨log ++ [.read [len]], ?_⟩) (by simp [address', port']) rfl
    exact addressLen_ok.mpr (.inr (.inr ⟨len, rfl, rfl, rfl, rfl⟩))

/-- The tunnel opens for these streams alone, and what follows the reply stays unread. -/
theorem connect_ok {proxy : Proxy} {target : Target} (fits : target.tooLong = false)
    {stream rest : Bytes} :
    (∃ log, connect proxy target ⟨stream, []⟩ = (.ok (), ⟨rest, log⟩)) ↔
      ∃ selection reply, Admits proxy.auth selection ∧ Opens reply ∧
        stream = selection ++ reply ++ rest := by
  simp only [connect, fits, Bool.false_eq_true, ↓reduceIte, sendRequest, Dialogue.bind_ok_iff,
    Dialogue.writeAll_ok_iff]
  constructor
  · rintro ⟨log, _, chosen, negotiated, _, asked, rfl, replied⟩
    obtain ⟨reply, opens, split⟩ := readReply_sound replied
    rcases negotiate_ok.mp negotiated with ⟨front, -⟩ | ⟨auth, configured, front, -⟩
    · refine ⟨[5, 0], reply, .free, opens, ?_⟩
      rw [List.append_assoc, ← split]
      exact front
    · refine ⟨[5, 2, 1, 0], reply, .password (by simp [configured]), opens, ?_⟩
      rw [List.append_assoc, ← split]
      exact front
  · rintro ⟨selection, reply, admits, opens, rfl⟩
    have negotiated : ∃ log, negotiate proxy ⟨selection ++ reply ++ rest, []⟩ =
        (.ok (), ⟨reply ++ rest, log⟩) := by
      cases admits with
      | free => exact ⟨_, negotiate_ok.mpr (.inl ⟨by simp, rfl⟩)⟩
      | password configured =>
        obtain ⟨auth, configured⟩ := Option.isSome_iff_exists.mp configured
        exact ⟨_, negotiate_ok.mpr (.inr ⟨auth, configured, by simp, rfl⟩)⟩
    obtain ⟨log, negotiated⟩ := negotiated
    let asked : Dialogue.Wire UInt8 := ⟨reply ++ rest, log ++ [.wrote target.request]⟩
    obtain ⟨log', replied⟩ := readReply_complete opens (show asked.unread = reply ++ rest from rfl)
    exact ⟨log', (), _, negotiated, (), _, rfl, replied⟩

end Outcomes

section Faithfulness

private theorem faithful_authenticate (auth : Auth) : Dialogue.Faithful (authenticate auth) := by
  apply Dialogue.Faithful.bind (.writeAll _)
  intro _
  apply Dialogue.Faithful.bind (.readExact _ _)
  intro status
  split
  · exact .fail _
  · split
    · exact .fail _
    · exact .pure _

private theorem faithful_negotiate (proxy : Proxy) : Dialogue.Faithful (negotiate proxy) := by
  apply Dialogue.Faithful.bind (.writeAll _)
  intro _
  apply Dialogue.Faithful.bind (.readExact _ _)
  intro chosen
  split
  · exact .fail _
  · split
    · exact .pure _
    · exact faithful_authenticate _
    · exact .fail _
    · exact .fail _

private theorem faithful_addressLen (kind : UInt8) : Dialogue.Faithful (addressLen kind) := by
  unfold addressLen
  split
  · exact .pure _
  · exact .pure _
  · exact .bind (.readExact _ _) fun _ => .pure _
  · exact .fail _

private theorem faithful_readReply : Dialogue.Faithful readReply := by
  apply Dialogue.Faithful.bind (.readExact _ _)
  intro head
  split
  · exact .fail _
  · split
    · exact .fail _
    · apply Dialogue.Faithful.bind (faithful_addressLen _)
      intro length
      exact .bind (.readExact _ _) fun _ => .pure _

private theorem faithful_connect (proxy : Proxy) (target : Target) :
    Dialogue.Faithful (connect proxy target) := by
  unfold connect
  split
  · exact .fail _
  · apply Dialogue.Faithful.bind (faithful_negotiate proxy)
    intro _
    exact .bind (.writeAll _) fun _ => faithful_readReply

end Faithfulness

section Writing

/-- What may be written behind what was done before: the credentials when the proxy
has asked for them, and the target once it admits the client. -/
inductive MayWrite (proxy : Proxy) (target : Target) :
    List (Dialogue.Event UInt8) → Bytes → Prop where
  | greeting : MayWrite proxy target [] (greeting proxy.auth.isSome)
  | credentials {auth : Auth} (configured : proxy.auth = some auth) :
      MayWrite proxy target [.wrote (Socks5.greeting true), .read [5, 2]] auth.request
  | request {before : List (Dialogue.Event UInt8)}
      (admits : Admits proxy.auth (Dialogue.received before)) :
      MayWrite proxy target before target.request

variable {proxy : Proxy} {target : Target} {wire : Dialogue.Wire UInt8}

variable {allowed : List (Dialogue.Event UInt8) → Bytes → Prop}

private theorem writes_authenticate {auth : Auth} (may : allowed wire.log auth.request) :
    Dialogue.WritesOnly allowed wire (authenticate auth) := by
  apply Dialogue.WritesOnly.bind (.writeAll may)
  intro _ middle _
  apply Dialogue.WritesOnly.bind (.readExact _ _)
  intro status last _
  split
  · exact .fail _
  · split
    · exact .fail _
    · exact .pure _

/-- The negotiation writes the greeting, and the credentials to a proxy that has
asked for them. -/
theorem writes_negotiate (fresh : wire.log = [])
    (greets : allowed [] (greeting proxy.auth.isSome))
    (authenticates : ∀ auth, proxy.auth = some auth →
      allowed [.wrote (greeting true), .read [5, 2]] auth.request) :
    Dialogue.WritesOnly allowed wire (negotiate proxy) := by
  apply Dialogue.WritesOnly.bind
  · apply Dialogue.WritesOnly.writeAll
    rw [fresh]
    exact greets
  · intro _ middle greeted
    apply Dialogue.WritesOnly.bind (.readExact _ _)
    intro chosen last selected
    split
    · exact .fail _
    · rename_i version'
      split
      · exact .pure _
      · rename_i auth method configured
        apply writes_authenticate
        have code := Method.fromCode_eq_some method
        obtain ⟨size, -, logged⟩ := readExact_ok.mp selected
        obtain ⟨first, second, rfl⟩ := List.length_eq_two.mp size
        obtain rfl : first = 5 := by simpa [byteAt, version] using version'
        obtain rfl : second = 2 := code
        rw [Dialogue.writeAll_ok_iff] at greeted
        rw [logged, greeted, fresh, configured]
        exact authenticates auth configured
      · exact .fail _
      · exact .fail _

theorem writes_readReply : Dialogue.WritesOnly allowed wire readReply := by
  apply Dialogue.WritesOnly.bind (.readExact _ _)
  intro head middle _
  split
  · exact .fail _
  · split
    · exact .fail _
    · apply Dialogue.WritesOnly.bind
      · unfold addressLen
        split
        · exact .pure _
        · exact .pure _
        · exact .bind (.readExact _ _) fun _ _ _ => .pure _
        · exact .fail _
      · intro length last _
        exact .bind (.readExact _ _) fun _ _ _ => .pure _

private theorem writes_connect (fresh : wire.log = []) :
    Dialogue.WritesOnly (MayWrite proxy target) wire (connect proxy target) := by
  unfold connect
  split
  · exact .fail _
  · apply Dialogue.WritesOnly.bind (writes_negotiate fresh .greeting fun _ => .credentials)
    intro _ middle negotiated
    apply Dialogue.WritesOnly.bind
    · apply Dialogue.WritesOnly.writeAll
      apply MayWrite.request
      rcases negotiate_ok.mp negotiated with ⟨-, logged⟩ | ⟨auth, configured, -, logged⟩
      · rw [logged, fresh]
        exact .free
      · rw [logged, fresh]
        exact .password (by simp [configured])
    · intro _ last _
      exact writes_readReply

end Writing

/-- A target that fits its length byte is connected to for exactly the streams the
protocol allows, and the tunnel starts behind the reply. Whatever the proxy sends,
no byte is lost or read twice, and the credentials are written only to a proxy that
asked for them. -/
theorem connect_dialogue (proxy : Proxy) (target : Target) (stream : Bytes) :
    ((∀ host port, target = .domain host port → Utf8.size host ≤ 255) →
      ∀ rest, (∃ log, connect proxy target ⟨stream, []⟩ = (.ok (), ⟨rest, log⟩)) ↔
        ∃ selection reply, Admits proxy.auth selection ∧ Opens reply ∧
          stream = selection ++ reply ++ rest) ∧
    (∀ host port, target = .domain host port → 255 < Utf8.size host →
      connect proxy target ⟨stream, []⟩ = (.error .hostnameTooLong, ⟨stream, []⟩)) ∧
    (∀ result final, connect proxy target ⟨stream, []⟩ = (result, final) →
      Dialogue.received final.log ++ final.unread = stream ∧
        ∀ early written late, final.log = early ++ .wrote written :: late →
          MayWrite proxy target early written) := by
  refine ⟨?_, ?_, ?_⟩
  · intro fits rest
    apply connect_ok
    cases target with
    | domain host port => exact decide_eq_false (Nat.not_lt.mpr (fits host port rfl))
    | v4 address port => rfl
    | v6 address port => rfl
  · rintro host port rfl long
    have refused : (Target.domain host port).tooLong = true := decide_eq_true long
    simp [connect, refused, Dialogue.fail]
  · intro result final ran
    have faithful := faithful_connect proxy target ⟨stream, []⟩
    have writes : Dialogue.WritesOnly (MayWrite proxy target) ⟨stream, []⟩
        (connect proxy target) := writes_connect rfl
    obtain ⟨added, logged, legal⟩ := writes
    rw [ran] at faithful logged
    refine ⟨by simpa [Dialogue.received] using faithful, ?_⟩
    intro early written late split
    apply legal early written late
    rw [← split]
    exact logged.symm

/-- A proxy that asks for the credentials and answers with an IPv6 address, and the
first bytes of the tunnel. -/
theorem connect_dialogue_ipv6 :
    ∃ log, connect ⟨.domain ['p'], 1080, some ⟨['u'], ['s']⟩, true⟩ (.domain ['w', 's'] 443)
      ⟨[5, 2, 1, 0] ++ ([5, 0, 0, 4] ++ (List.replicate 16 7 ++ [0, 80])) ++ [22, 3, 1], []⟩ =
      (.ok (), ⟨[22, 3, 1], log⟩) := by
  apply ((connect_dialogue _ _ _).1 _ _).mpr
  · exact ⟨[5, 2, 1, 0], _, .password rfl, .ipv6 rfl rfl, rfl⟩
  · intro host port same
    cases same
    decide

end Yawc.Socks5
