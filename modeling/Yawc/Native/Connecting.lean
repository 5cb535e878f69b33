import Yawc.Native.Connect
import Yawc.Native.Handshakes

/-! What establishing a connection does to the outside: whom it contacts, what it
sends over an open stream, and which addresses it tries. -/

namespace Yawc

open Interaction (Tried Only tried_bind tried_bind_ok tried_lift tried_pure tried_throw tried_attempt)
open Socks5 (Host Proxy Target)

abbrev NetEvent := Interaction.Event Net Net.Reply

section Parts

variable {build : Build} {url : Url} {options : Options} {builder : HeaderMap}

/-- The actions of the handshake. -/
def Net.shakes : Net → Bool
  | random | http _ | send _ _ | upgrade => true
  | _ => false

/-- The actions that lead to a stream. -/
def Net.dials : Net → Bool
  | lookup _ _ | connect _ | socket _ | bind _ | connectFrom _ _ | tunnel _ _ => true
  | _ => false

private theorem Net.not_shakes_of_dials (action : Net) (dials : action.dials) :
    ¬ action.shakes := by
  cases action <;> simp_all [Net.dials, Net.shakes]

private theorem http1Upgrade_only :
    Only (·.1.shakes) (http1Upgrade build url options builder) := by
  refine .bind (.attempt fun _ => rfl) fun key => .bind (.attempt fun _ => rfl) fun _ => ?_
  refine .bind (.attempt fun _ => rfl) fun response => .bind (.lift _) fun negotiated => ?_
  exact .bind (.attempt fun _ => rfl) fun _ => .pure _

private theorem http2Handshake_only :
    Only (·.1.shakes) (Http2.handshake build url options builder) := by
  refine .bind (.lift _) fun built => .bind (.attempt fun _ => rfl) fun _ => ?_
  refine .bind (.attempt fun _ => rfl) fun response => .bind (.lift _) fun negotiated => ?_
  exact .bind (.attempt fun _ => rfl) fun _ => .pure _

private theorem tryAddresses_only (address : IpAddr) (remotes : List SocketAddr) (error : String) :
    Only (·.1.dials) (tryAddresses address remotes error) := by
  induction remotes generalizing error with
  | nil => exact .throw _
  | cons remote rest ih =>
    refine .bind (.attempt fun _ => rfl) fun _ => .bind (.attempt fun _ => rfl) fun _ => ?_
    refine .bind (.attempt fun _ => rfl) fun outcome => ?_
    cases outcome with
    | ok value => exact .pure _
    | error error => exact ih error

private theorem connectTcp_only (localAddress : Option IpAddr) (target : Endpoint) :
    Only (·.1.dials) (connectTcp localAddress target) := by
  cases localAddress with
  | none => exact .attempt fun _ => rfl
  | some address =>
    refine .bind ?_ fun remotes => tryAddresses_only _ _ _
    cases target with
    | domain name port => exact .attempt fun _ => rfl
    | addr address => exact .pure _

private theorem proxyTarget_only (proxy : Proxy) (pinned : Option SocketAddr) :
    Only (·.1.dials) (proxyTarget proxy url pinned) := by
  unfold proxyTarget
  cases pinned with
  | some address => exact .pure _
  | none =>
    cases url.hostname with
    | ipv4 octets => exact .pure _
    | ipv6 octets => exact .pure _
    | domain name =>
      by_cases remote : proxy.remoteDns
      · simp only [remote, ↓reduceIte]
        exact .pure _
      · simp only [remote, Bool.false_eq_true, ↓reduceIte]
        refine .bind (.attempt fun _ => rfl) fun addresses => ?_
        cases addresses with
        | nil => exact .throw _
        | cons first rest => exact .pure _

theorem dial_only (opts : BuilderOpts) : Only (·.1.dials) (dial opts) := by
  unfold dial
  cases opts.proxy with
  | none =>
    cases opts.tcpAddress with
    | none => exact connectTcp_only _ _
    | some address => exact connectTcp_only _ _
  | some proxy =>
    simp only [connectThrough]
    split
    · exact .throw _
    · split
      · exact .throw _
      · refine .bind (proxyTarget_only _ _) fun target => ?_
        exact .bind (connectTcp_only _ _) fun _ => .attempt fun _ => rfl

end Parts

section Securing

variable {build : Build} {opts : BuilderOpts}

/-- What is done to a fresh stream before it is used: it is secured if the URL asks
for that, by its own name. -/
def securing (build : Build) (opts : BuilderOpts) : List NetEvent :=
  if opts.url.scheme = "wss".toList then
    [⟨.tls (build.display opts.url.hostname) (opts.connector.getD (alpnFor opts.version)),
      (.ok () : Except String Unit)⟩]
  else []

/-- The schemes a client connects for. -/
def BuilderOpts.Schemed (self : BuilderOpts) : Prop :=
  self.url.scheme = "ws".toList ∨ self.url.scheme = "wss".toList

theorem BuilderOpts.Schemed.isWeb (schemed : opts.Schemed) : isWeb opts.url.scheme := by
  unfold Yawc.isWeb
  rcases schemed with ws | wss
  · simp [ws]
  · simp [wss]

theorem isSecure_ok {url : Url} {secure : Bool} (asked : isSecure url = .ok secure) :
    (url.scheme = "ws".toList ∧ secure = false) ∨ (url.scheme = "wss".toList ∧ secure = true) := by
  unfold isSecure at asked
  split at asked
  · exact .inl ⟨‹_›, (Except.ok.inj asked).symm⟩
  · split at asked
    · exact .inr ⟨‹_›, (Except.ok.inj asked).symm⟩
    · cases asked

theorem connectorFor_ok {tls : TlsSupport} {secure : Bool} {connector : Option (List Bytes)}
    (found : connectorFor tls opts secure = .ok connector) :
    connector = if secure then some (opts.connector.getD (alpnFor opts.version)) else none := by
  unfold connectorFor at found
  split at found
  · rename_i secured
    rw [if_pos secured]
    split at found
    · cases found
    · rename_i alpn given
      rw [given]
      exact (Except.ok.inj found).symm
    · rename_i missing
      rw [missing]
      exact (Except.ok.inj found).symm
    · cases found
  · rename_i plain
    rw [if_neg plain]
    exact (Except.ok.inj found).symm

private theorem connectStream_ok {events : List NetEvent}
    (tried : Tried (connectStream build opts) events (.ok ())) :
    opts.Schemed ∧ ∃ dialled, events = dialled ++ securing build opts ∧
      Tried (dial opts) dialled (.ok ()) := by
  obtain ⟨_, _, secure, rfl, asked, finding⟩ := tried_bind_ok.mp tried
  obtain ⟨rfl, secureness⟩ := tried_lift.mp asked
  obtain ⟨_, _, connector, rfl, found, opening⟩ := tried_bind_ok.mp finding
  obtain ⟨rfl, wanted⟩ := tried_lift.mp found
  obtain ⟨dialled, late, _, rfl, opened, wrapping⟩ := tried_bind_ok.mp opening
  obtain rfl := connectorFor_ok wanted.symm
  rcases isSecure_ok secureness.symm with ⟨plain, rfl⟩ | ⟨secured, rfl⟩
  · obtain ⟨rfl, -⟩ := tried_pure.mp wrapping
    have unsecured : securing build opts = [] := by
      rw [securing, if_neg]
      simp [plain]
    exact ⟨.inl plain, dialled, by simp [unsecured], opened⟩
  · refine ⟨.inr secured, dialled, ?_, opened⟩
    simp only [↓reduceIte, startTls] at wrapping
    split at wrapping
    · obtain ⟨reply, rfl, done⟩ := tried_attempt.mp wrapping
      cases reply with
      | error error => cases done
      | ok value => simp [securing, secured]
    · obtain ⟨-, ⟨⟩⟩ := tried_throw.mp wrapping

private theorem connectStream_only :
    Only (¬ ·.1.shakes) (connectStream build opts) := by
  refine .bind (.lift _) fun secure => .bind (.lift _) fun connector => .bind ?_ fun _ => ?_
  · exact (dial_only opts).mono fun event => Net.not_shakes_of_dials event.1
  · cases connector with
    | none => exact .pure _
    | some alpn =>
      simp only [startTls]
      split
      · exact .attempt fun _ => Bool.false_ne_true
      · exact .throw _

end Securing

section Requests

variable {build : Build} {opts : BuilderOpts} {before after : List NetEvent}
  {result : Except ConnectError Negotiation} {uri : Text} {request : Request}
  {reply : Net.Reply (.send uri request)}

/-- Nothing is asked for after the response but the stream itself. -/
theorem finishing_only (named : HyperError → ConnectError) (verified : Result Negotiation) :
    Only (·.1 = .upgrade) (do
      let negotiated ← settle verified
      finishUpgrade named
      return negotiated) :=
  .bind (.lift _) fun _ => .bind (.attempt fun _ => rfl) fun _ => .pure _

/-- What leads from an open stream to a request: a key, which HTTP/2 has none of, and
the connection of hyper. -/
def starting (version : HttpVersion) (key : Bytes) : List NetEvent :=
  match version with
  | .http1 => [⟨.random, key⟩, ⟨.http .http1, (.ok () : Except String Unit)⟩]
  | .http2 => [⟨.http .http2, (.ok () : Except String Unit)⟩]

private theorem http1Upgrade_sent {url : Url} {options : Options} {builder : HeaderMap}
    (tried : Tried (http1Upgrade build url options builder)
      (before ++ ⟨.send uri request, reply⟩ :: after) result) :
    (∃ key, before = starting .http1 key ∧
      request = http1Request build.features (asBytes (url.authority build.display)) key options
        builder) ∧
    ∀ event ∈ after, event.1 = .upgrade := by
  obtain ⟨key, _, _, rfl, drawn, opening⟩ := Interaction.reached_past Net.noConfusion tried
  obtain rfl := Except.ok.inj drawn
  obtain ⟨opened, _, _, rfl, done, sending⟩ := Interaction.reached_past Net.noConfusion opening
  obtain ⟨rfl, same, last⟩ := Interaction.reached_first (fun _ => finishing_only _ _)
    Net.noConfusion sending
  obtain ⟨rfl, rfl⟩ := Net.send.inj same
  cases opened with
  | error error => cases done
  | ok value => exact ⟨⟨key, rfl, rfl⟩, last⟩

private theorem http2Handshake_sent {url : Url} {options : Options} {builder : HeaderMap}
    (tried : Tried (Http2.handshake build url options builder)
      (before ++ ⟨.send uri request, reply⟩ :: after) result) :
    before = starting .http2 [] ∧
    Http2.buildRequest build.features build.display url options builder = .ok (uri, request) ∧
    ∀ event ∈ after, event.1 = .upgrade := by
  obtain ⟨built, made, opening⟩ := Interaction.reached_lift tried
  obtain ⟨opened, _, _, rfl, done, sending⟩ := Interaction.reached_past Net.noConfusion opening
  obtain ⟨rfl, same, last⟩ := Interaction.reached_first (fun _ => finishing_only _ _)
    Net.noConfusion sending
  obtain ⟨rfl, rfl⟩ := Net.send.inj same
  cases opened with
  | error error => cases done
  | ok value => exact ⟨rfl, made, last⟩

/-- A request goes out over a stream that was dialled and then, exactly if the URL asks
for it, secured by the URL's own name. It is the only one. -/
theorem request_secured
    (tried : Tried (connectVersioned build opts) (before ++ ⟨.send uri request, reply⟩ :: after)
      result) :
    opts.Schemed ∧
    (∃ dialled key, before = dialled ++ securing build opts ++ starting opts.version key ∧
      Tried (dial opts) dialled (.ok ()) ∧ (∀ event ∈ dialled, event.1.dials) ∧
      opts.version.request build.features build.display opts.url key
        (opts.establishOptions.getD .default) (opts.httpBuilder.getD []) = some request) ∧
    ∀ event ∈ after, event.1 = .upgrade := by
  obtain ⟨early, late, _, rfl, streamed, shaking⟩ :=
    Interaction.reached_later connectStream_only (not_not.mpr rfl) tried
  obtain ⟨schemed, dialled, rfl, opened⟩ := connectStream_ok streamed
  refine ⟨schemed, ?_⟩
  cases version : opts.version with
  | http1 =>
    simp only [version] at shaking
    obtain ⟨⟨key, rfl, rfl⟩, last⟩ := http1Upgrade_sent shaking
    exact ⟨⟨dialled, key, rfl, opened, dial_only opts _ _ opened,
      opts.url.http1Request_eq _ _ schemed.isWeb ..⟩, last⟩
  | http2 =>
    simp only [version] at shaking
    obtain ⟨rfl, built, last⟩ := http2Handshake_sent shaking
    exact ⟨⟨dialled, [], rfl, opened, dial_only opts _ _ opened,
      by simp [HttpVersion.request, built, Except.toOption]⟩, last⟩

/-- A build with its own TLS. -/
def tlsBuild : Build where
  features := { http2 := true, backend := .zlib }
  tls := .provider
  display _ := "a".toList
  serverName _ := true
  accept := id

/-- A URL that asks for TLS. -/
def tlsOpts : BuilderOpts where
  url := { scheme := "wss".toList, host := some (.domain "a".toList), port := none,
           path := "/".toList, hosted := fun _ => rfl }
  tcpAddress := none
  localAddress := none
  connector := none
  proxy := none
  establishOptions := none
  httpBuilder := none
  version := .http1

def tlsStart : List NetEvent :=
  [⟨.connect (.domain "a".toList 443), (.ok () : Except String Unit)⟩,
    ⟨.tls "a".toList [textBytes "http/1.1"], (.ok () : Except String Unit)⟩,
    ⟨.random, ([7] : Bytes)⟩, ⟨.http .http1, (.ok () : Except String Unit)⟩]

/-- A run whose request is lost. -/
theorem tlsOpts_tried : Tried (connectVersioned tlsBuild tlsOpts)
    (tlsStart ++
      ⟨.send "/".toList (http1Request tlsBuild.features (textBytes "a") [7] .default []),
        (.error ⟨"lost", []⟩ : Except HyperError Response)⟩ :: [])
    (.error (.http "lost")) :=
  .perform _ (.perform _ (.perform _ (.perform _ (.perform _ (.done _)))))

theorem request_secured_tls :
    tlsOpts.Schemed ∧ ∃ dialled key,
      tlsStart = dialled ++ securing tlsBuild tlsOpts ++ starting .http1 key := by
  obtain ⟨schemed, ⟨dialled, key, same, -⟩, -⟩ := request_secured tlsOpts_tried
  exact ⟨schemed, dialled, key, same⟩

end Requests

section Contacts

variable {events more : List NetEvent} {localAddress : Option IpAddr} {endpoint : Endpoint}

/-- The address is one the endpoint stands for. -/
def Resolved (events : List NetEvent) (endpoint : Endpoint) (remote : SocketAddr) : Prop :=
  match endpoint with
  | .addr address => remote = address
  | .domain name port => ∃ remotes : List SocketAddr,
      ⟨.lookup name port, (.ok remotes : Except String (List SocketAddr))⟩ ∈ events ∧
        remote ∈ remotes

private theorem Resolved.mono {remote : SocketAddr} (resolved : Resolved events endpoint remote)
    (subset : events ⊆ more) : Resolved more endpoint remote := by
  cases endpoint with
  | addr address => exact resolved
  | domain name port =>
    obtain ⟨remotes, member, listed⟩ := resolved
    exact ⟨remotes, subset member, listed⟩

/-- What it takes to reach an endpoint, from a given address if there is one. -/
inductive Reaches (localAddress : Option IpAddr) (endpoint : Endpoint) (events : List NetEvent) :
    Net → Prop where
  | connect (free : localAddress = none) : Reaches localAddress endpoint events (.connect endpoint)
  | lookup {name : Text} {port : UInt16} (bound : localAddress.isSome)
      (named : endpoint = .domain name port) :
      Reaches localAddress endpoint events (.lookup name port)
  | socket {address : IpAddr} (bound : localAddress = some address) :
      Reaches localAddress endpoint events (.socket address.isIpv4)
  | bind {address : IpAddr} (bound : localAddress = some address) :
      Reaches localAddress endpoint events (.bind address)
  | connectFrom {address : IpAddr} {remote : SocketAddr} (bound : localAddress = some address)
      (kind : remote.ip.isIpv4 = address.isIpv4) (resolved : Resolved events endpoint remote) :
      Reaches localAddress endpoint events (.connectFrom address remote)

private theorem Reaches.mono {action : Net} (reaches : Reaches localAddress endpoint events action)
    (subset : events ⊆ more) : Reaches localAddress endpoint more action := by
  cases reaches with
  | connect free => exact .connect free
  | lookup bound named => exact .lookup bound named
  | socket bound => exact .socket bound
  | bind bound => exact .bind bound
  | connectFrom bound kind resolved => exact .connectFrom bound kind (resolved.mono subset)

private theorem tryAddresses_reaches (address : IpAddr) (remotes : List SocketAddr)
    (kinds : ∀ remote ∈ remotes, remote.ip.isIpv4 = address.isIpv4)
    (resolved : ∀ remote ∈ remotes, Resolved events endpoint remote) (error : String) :
    Only (Reaches (some address) endpoint events ·.1) (tryAddresses address remotes error) := by
  induction remotes generalizing error with
  | nil => exact .throw _
  | cons remote rest ih =>
    refine .bind (.attempt fun _ => .socket rfl) fun _ => .bind (.attempt fun _ => .bind rfl) fun _ => ?_
    refine .bind (.attempt fun _ => .connectFrom rfl (kinds _ (by simp)) (resolved _ (by simp)))
      fun outcome => ?_
    cases outcome with
    | ok value => exact .pure _
    | error error =>
      exact ih (fun other member => kinds other (.tail _ member))
        (fun other member => resolved other (.tail _ member)) error

private theorem connectTcp_reaches {result : Except ConnectError Unit}
    (tried : Tried (connectTcp localAddress endpoint) events result) :
    ∀ event ∈ events, Reaches localAddress endpoint events event.1 := by
  cases localAddress with
  | none =>
    obtain ⟨reply, rfl, -⟩ := tried_attempt.mp tried
    simpa using Reaches.connect rfl
  | some address =>
    have attempts (known : List NetEvent) (remotes : List SocketAddr)
        (resolved : ∀ remote ∈ remotes, Resolved known endpoint remote) :
        Only (Reaches (some address) endpoint known ·.1)
          (tryAddresses address (remotes.filter (·.ip.isIpv4 = address.isIpv4)) noAddress) :=
      tryAddresses_reaches address _ (by simp)
        (fun remote member => resolved remote (List.mem_of_mem_filter member)) noAddress
    cases endpoint with
    | addr target =>
      rcases tried_bind.mp tried with ⟨_, failed, -⟩ | ⟨_, late, remotes, rfl, found, trying⟩
      · obtain ⟨rfl, -⟩ := tried_pure.mp failed
        simp
      · obtain ⟨rfl, same⟩ := tried_pure.mp found
        obtain rfl := Except.ok.inj same
        exact attempts _ _ (by simp [Resolved]) _ _ trying
    | domain name port =>
      rcases tried_bind.mp tried with ⟨_, failed, -⟩ | ⟨_, late, remotes, rfl, found, trying⟩
      · obtain ⟨reply, rfl, -⟩ := tried_attempt.mp failed
        simpa using Reaches.lookup rfl rfl
      · obtain ⟨reply, rfl, same⟩ := tried_attempt.mp found
        cases reply with
        | error error => cases same
        | ok listed =>
          obtain rfl := Except.ok.inj same
          intro event member
          rcases List.mem_append.mp member with first | later
          · obtain rfl := List.mem_singleton.mp first
            exact .lookup rfl rfl
          · exact attempts _ remotes (fun remote listed => ⟨remotes, by simp, listed⟩) _ _ trying
              event later

variable {opts : BuilderOpts} {build : Build}

/-- Whom the client itself connects to. -/
def BuilderOpts.contact (self : BuilderOpts) : Endpoint :=
  match self.proxy, self.tcpAddress with
  | some proxy, _ => .of proxy.host proxy.port
  | none, some address => .addr address
  | none, none => .of self.url.hostname (self.url.portOrKnownDefault.getD 0)

/-- Whom the proxy is asked for. -/
inductive Wanted (opts : BuilderOpts) (proxy : Proxy) (events : List NetEvent) : Target → Prop where
  | pinned {address : SocketAddr} (given : opts.tcpAddress = some address) :
      Wanted opts proxy events address.target
  | ipv4 {octets : Socks5.Octets 4} (free : opts.tcpAddress = none)
      (host : opts.url.hostname = .ipv4 octets) :
      Wanted opts proxy events (.v4 octets (opts.url.portOrKnownDefault.getD 0))
  | ipv6 {octets : Socks5.Octets 16} (free : opts.tcpAddress = none)
      (host : opts.url.hostname = .ipv6 octets) :
      Wanted opts proxy events (.v6 octets (opts.url.portOrKnownDefault.getD 0))
  | remote {name : Text} (free : opts.tcpAddress = none) (host : opts.url.hostname = .domain name)
      (resolves : proxy.remoteDns) :
      Wanted opts proxy events (.domain name (opts.url.portOrKnownDefault.getD 0))
  | resolved {name : Text} {first : SocketAddr} {rest : List SocketAddr}
      (free : opts.tcpAddress = none) (host : opts.url.hostname = .domain name)
      (asks : proxy.remoteDns = false)
      (found : ⟨.lookup name (opts.url.portOrKnownDefault.getD 0),
        (.ok (first :: rest) : Except String (List SocketAddr))⟩ ∈ events) :
      Wanted opts proxy events first.target

theorem Wanted.mono {proxy : Proxy} {target : Target} (wanted : Wanted opts proxy events target)
    (subset : events ⊆ more) : Wanted opts proxy more target := by
  cases wanted with
  | pinned given => exact .pinned given
  | ipv4 free host => exact .ipv4 free host
  | ipv6 free host => exact .ipv6 free host
  | remote free host resolves => exact .remote free host resolves
  | resolved free host asks found => exact .resolved free host asks (subset found)

/-- What opening a stream may ask of the outside. -/
inductive Opens (opts : BuilderOpts) (events : List NetEvent) : Net → Prop where
  | reach {action : Net} (reaches : Reaches opts.localAddress opts.contact events action) :
      Opens opts events action
  | lookup {proxy : Proxy} {name : Text} (behind : opts.proxy = some proxy)
      (free : opts.tcpAddress = none) (asks : proxy.remoteDns = false)
      (host : opts.url.hostname = .domain name) :
      Opens opts events (.lookup name (opts.url.portOrKnownDefault.getD 0))
  | tunnel {proxy : Proxy} {target : Target} (behind : opts.proxy = some proxy)
      (wanted : Wanted opts proxy events target) : Opens opts events (.tunnel proxy target)

theorem Opens.mono {action : Net} (opens : Opens opts events action) (subset : events ⊆ more) :
    Opens opts more action := by
  cases opens with
  | reach reaches => exact .reach (reaches.mono subset)
  | lookup behind free asks host => exact .lookup behind free asks host
  | tunnel behind wanted => exact .tunnel behind (wanted.mono subset)

private theorem proxyTarget_opens {proxy : Proxy} {result : Except ConnectError Target}
    (behind : opts.proxy = some proxy)
    (tried : Tried (proxyTarget proxy opts.url opts.tcpAddress) events result) :
    (∀ event ∈ events, Opens opts events event.1) ∧
      ∀ target, result = .ok target → Wanted opts proxy events target := by
  unfold proxyTarget at tried
  cases pinned : opts.tcpAddress with
  | some address =>
    simp only [pinned] at tried
    obtain ⟨rfl, rfl⟩ := tried_pure.mp tried
    refine ⟨by simp, ?_⟩
    rintro target ⟨⟩
    exact .pinned pinned
  | none =>
    simp only [pinned] at tried
    cases host : opts.url.hostname with
    | ipv4 octets =>
      simp only [host] at tried
      obtain ⟨rfl, rfl⟩ := tried_pure.mp tried
      refine ⟨by simp, ?_⟩
      rintro target ⟨⟩
      exact .ipv4 pinned host
    | ipv6 octets =>
      simp only [host] at tried
      obtain ⟨rfl, rfl⟩ := tried_pure.mp tried
      refine ⟨by simp, ?_⟩
      rintro target ⟨⟩
      exact .ipv6 pinned host
    | domain name =>
      simp only [host] at tried
      by_cases remote : proxy.remoteDns
      · rw [if_pos remote] at tried
        obtain ⟨rfl, rfl⟩ := tried_pure.mp tried
        refine ⟨by simp, ?_⟩
        rintro target ⟨⟩
        exact .remote pinned host remote
      · rw [if_neg remote] at tried
        have asks : proxy.remoteDns = false := by simpa using remote
        rcases tried_bind.mp tried with ⟨_, failed, rfl⟩ | ⟨_, late, listed, rfl, found, choosing⟩
        · obtain ⟨reply, rfl, -⟩ := tried_attempt.mp failed
          refine ⟨?_, by simp⟩
          simpa using Opens.lookup behind pinned asks host
        · obtain ⟨reply, rfl, same⟩ := tried_attempt.mp found
          cases listed with
          | nil =>
            obtain ⟨rfl, rfl⟩ := tried_throw.mp choosing
            refine ⟨?_, by simp⟩
            simpa using Opens.lookup behind pinned asks host
          | cons first rest =>
            obtain ⟨rfl, rfl⟩ := tried_pure.mp choosing
            constructor
            · simpa using Opens.lookup behind pinned asks host
            · rintro target ⟨⟩
              cases reply with
              | error error => cases same
              | ok listed =>
                obtain rfl := Except.ok.inj same
                exact .resolved pinned host asks (.head _)

private theorem dial_opens {result : Except ConnectError Unit}
    (tried : Tried (dial opts) events result) :
    ∀ event ∈ events, Opens opts events event.1 := by
  unfold dial at tried
  cases behind : opts.proxy with
  | none =>
    have reached : Tried (connectTcp opts.localAddress opts.contact) events result := by
      cases pinned : opts.tcpAddress with
      | none => simpa [behind, pinned, BuilderOpts.contact] using tried
      | some address => simpa [behind, pinned, BuilderOpts.contact] using tried
    exact fun event member => .reach (connectTcp_reaches reached event member)
  | some proxy =>
    simp only [behind, connectThrough] at tried
    split at tried
    · obtain ⟨rfl, -⟩ := tried_throw.mp tried
      simp
    · split at tried
      · obtain ⟨rfl, -⟩ := tried_throw.mp tried
        simp
      · have contact : opts.contact = .of proxy.host proxy.port := by
          simp [BuilderOpts.contact, behind]
        rcases tried_bind.mp tried with ⟨_, failed, -⟩ | ⟨asked, _, target, rfl, chosen, opening⟩
        · exact (proxyTarget_opens behind failed).1
        · obtain ⟨asking, wanted⟩ := proxyTarget_opens behind chosen
          have dialling {reaching : List NetEvent} {outcome : Except ConnectError Unit}
              (dialled : Tried (dialProxy proxy opts.localAddress) reaching outcome) :
              ∀ event ∈ reaching, Opens opts reaching event.1 := by
            intro event member
            exact .reach (contact ▸ connectTcp_reaches dialled event member)
          rcases tried_bind.mp opening with ⟨_, failed, -⟩ | ⟨reaching, _, _, rfl, dialled, tunnelling⟩
          · intro event member
            rcases List.mem_append.mp member with early | late
            · exact (asking event early).mono (by simp)
            · exact (dialling failed event late).mono (by simp)
          · obtain ⟨reply, rfl, -⟩ := tried_attempt.mp tunnelling
            intro event member
            rcases List.mem_append.mp member with early | late
            · exact (asking event early).mono (by simp)
            · rcases List.mem_append.mp late with middle | last
              · exact (dialling dialled event middle).mono (by simp)
              · obtain rfl := List.mem_singleton.mp last
                exact .tunnel behind ((wanted target rfl).mono (by simp))

/-- The actions on an open stream: it is secured by the name of the URL, and the
handshake runs over it. -/
inductive Runs (build : Build) (opts : BuilderOpts) : Net → Prop where
  | tls {alpn : List Bytes} (secure : opts.url.scheme = "wss".toList) :
      Runs build opts (.tls (build.display opts.url.hostname) alpn)
  | shake {action : Net} (shakes : action.shakes) : Runs build opts action

private theorem connectStream_opens {result : Except ConnectError Unit}
    (tried : Tried (connectStream build opts) events result) :
    ∀ event ∈ events, Opens opts events event.1 ∨ Runs build opts event.1 := by
  rcases tried_bind.mp tried with ⟨_, failed, -⟩ | ⟨_, _, secure, rfl, asked, finding⟩
  · obtain ⟨rfl, -⟩ := tried_lift.mp failed
    simp
  · obtain ⟨rfl, secureness⟩ := tried_lift.mp asked
    rcases tried_bind.mp finding with ⟨_, failed, -⟩ | ⟨_, _, connector, rfl, found, opening⟩
    · obtain ⟨rfl, -⟩ := tried_lift.mp failed
      simp
    · obtain ⟨rfl, wanted⟩ := tried_lift.mp found
      rcases tried_bind.mp opening with ⟨_, failed, -⟩ | ⟨dialled, late, _, rfl, opened, wrapping⟩
      · exact fun event member => .inl (dial_opens failed event member)
      · intro event member
        rw [List.nil_append, List.nil_append] at member
        rcases List.mem_append.mp member with early | later
        · exact .inl ((dial_opens opened event early).mono (by simp))
        · refine .inr ?_
          obtain rfl := connectorFor_ok wanted.symm
          rcases isSecure_ok secureness.symm with ⟨plain, rfl⟩ | ⟨secured, rfl⟩
          · obtain ⟨rfl, -⟩ := tried_pure.mp wrapping
            cases later
          · simp only [↓reduceIte, startTls] at wrapping
            split at wrapping
            · obtain ⟨reply, rfl, -⟩ := tried_attempt.mp wrapping
              obtain rfl := List.mem_singleton.mp later
              exact .tls secured
            · obtain ⟨rfl, -⟩ := tried_throw.mp wrapping
              cases later

/-- Connecting contacts nobody but the one it is told to. A name is looked up only to
reach that one, or to name an address to a proxy that does not resolve names. -/
theorem contacts {result : Except ConnectError Negotiation}
    (tried : Tried (connectVersioned build opts) events result) :
    ∀ event ∈ events, Opens opts events event.1 ∨ Runs build opts event.1 := by
  rcases tried_bind.mp tried with ⟨_, failed, -⟩ | ⟨opening, late, _, rfl, streamed, rest⟩
  · exact connectStream_opens failed
  · intro event member
    rcases List.mem_append.mp member with early | later
    · rcases connectStream_opens streamed event early with opens | runs
      · exact .inl (opens.mono (by simp))
      · exact .inr runs
    · refine .inr (.shake ?_)
      cases version : opts.version with
      | http1 =>
        rw [version] at rest
        exact http1Upgrade_only _ _ rest event later
      | http2 =>
        rw [version] at rest
        exact http2Handshake_only _ _ rest event later

/-- The same through a proxy that resolves names. -/
def torOpts : BuilderOpts :=
  { tlsOpts with proxy := some { host := .domain "b".toList, port := 9050, auth := none, remoteDns := true } }

def torEvents : List NetEvent :=
  [⟨.connect (.domain "b".toList 9050), (.ok () : Except String Unit)⟩,
    ⟨.tunnel { host := .domain "b".toList, port := 9050, auth := none, remoteDns := true }
      (.domain "a".toList 443), (.ok [5, 0, 5, 0, 0, 1, 0, 0, 0, 0, 0, 0] : Except String Bytes)⟩,
    ⟨.tls "a".toList [textBytes "http/1.1"], (.error "lost" : Except String Unit)⟩]

theorem contacts_tor :
    Tried (connectVersioned tlsBuild torOpts) torEvents (.error (.io "lost")) ∧
      ∀ event ∈ torEvents, Opens torOpts torEvents event.1 ∨ Runs tlsBuild torOpts event.1 := by
  have tried : Tried (connectVersioned tlsBuild torOpts) torEvents (.error (.io "lost")) :=
    .perform _ (.perform _ (.perform _ (.done _)))
  exact ⟨tried, contacts tried⟩

end Contacts

end Yawc
