import Yawc.Native.Connecting

/-! How connecting ends: which addresses were tried, and what an error tells of how
far it came. -/

namespace Yawc

open Interaction (Tried Fails tried_bind tried_lift tried_pure tried_throw tried_attempt)
open Socks5 (Proxy Target)

section Binding

variable {address : IpAddr} {remotes : List SocketAddr} {error : String} {events : List NetEvent}
  {result : Except ConnectError Unit}

/-- One attempt: a socket of its own is opened, bound and connected. -/
def attempt (address : IpAddr) (remote : SocketAddr) (outcome : Except String Unit) :
    List NetEvent :=
  [⟨.socket address.isIpv4, (.ok () : Except String Unit)⟩,
    ⟨.bind address, (.ok () : Except String Unit)⟩, ⟨.connectFrom address remote, outcome⟩]

/-- The attempts on addresses that were not reached. -/
def failures (address : IpAddr) (failed : List (SocketAddr × String)) : List NetEvent :=
  failed.flatMap fun (remote, message) => attempt address remote (.error message)

/-- A socket that is not there to connect. -/
inductive Unbound (address : IpAddr) (message : String) : List NetEvent → Prop where
  | socket : Unbound address message
      [⟨.socket address.isIpv4, (.error message : Except String Unit)⟩]
  | bind : Unbound address message
      [⟨.socket address.isIpv4, (.ok () : Except String Unit)⟩,
        ⟨.bind address, (.error message : Except String Unit)⟩]

/-- How trying addresses in turn can go: up to the first that is reached, through all of
them, with the error of the last, or up to one without a socket to try it from. -/
inductive Ends (address : IpAddr) (remotes : List SocketAddr) (error : String) :
    List NetEvent → Except ConnectError Unit → Prop where
  | reached (failed : List (SocketAddr × String)) (remote : SocketAddr) (rest : List SocketAddr)
      (split : remotes = failed.map Prod.fst ++ remote :: rest) :
      Ends address remotes error (failures address failed ++ attempt address remote (.ok ())) (.ok ())
  | exhausted (failed : List (SocketAddr × String)) (all : remotes = failed.map Prod.fst) :
      Ends address remotes error (failures address failed)
        (.error (.io ((failed.map Prod.snd).getLastD error)))
  | unbound (failed : List (SocketAddr × String)) (remote : SocketAddr) (rest : List SocketAddr)
      (message : String) (opening : List NetEvent)
      (split : remotes = failed.map Prod.fst ++ remote :: rest)
      (why : Unbound address message opening) :
      Ends address remotes error (failures address failed ++ opening) (.error (.io message))

/-- What trying one more address can come to. -/
inductive TriesNext (address : IpAddr) (remote : SocketAddr) (rest : List SocketAddr) :
    List NetEvent → Except ConnectError Unit → Prop where
  | unbound (message : String) (opening : List NetEvent) (why : Unbound address message opening) :
      TriesNext address remote rest opening (.error (.io message))
  | reached : TriesNext address remote rest (attempt address remote (.ok ())) (.ok ())
  | failed (message : String) (later : List NetEvent) {result : Except ConnectError Unit}
      (going : Tried (tryAddresses address rest message) later result) :
      TriesNext address remote rest (attempt address remote (.error message) ++ later) result

theorem tryAddresses_next {remote : SocketAddr} {rest : List SocketAddr} :
    Tried (tryAddresses address (remote :: rest) error) events result ↔
      TriesNext address remote rest events result := by
  constructor
  · intro tried
    rcases tried_bind.mp tried with ⟨_, failed, rfl⟩ | ⟨_, _, _, rfl, opened, binding⟩
    · obtain ⟨reply, rfl, same⟩ := tried_attempt.mp failed
      cases reply with
      | ok value => cases same
      | error message =>
        obtain rfl := Except.error.inj same
        exact .unbound message _ .socket
    · obtain ⟨socket, rfl, open'⟩ := tried_attempt.mp opened
      obtain ⟨⟩ | ⟨⟨⟩⟩ := socket
      · cases open'
      rcases tried_bind.mp binding with ⟨_, failed, rfl⟩ | ⟨_, _, _, rfl, bound, connecting⟩
      · obtain ⟨reply, rfl, same⟩ := tried_attempt.mp failed
        cases reply with
        | ok value => cases same
        | error message =>
          obtain rfl := Except.error.inj same
          exact .unbound message _ .bind
      · obtain ⟨bind, rfl, bind'⟩ := tried_attempt.mp bound
        obtain ⟨⟩ | ⟨⟨⟩⟩ := bind
        · cases bind'
        rcases tried_bind.mp connecting with ⟨_, failed, -⟩ | ⟨_, later, outcome, rfl, connected, going⟩
        · obtain ⟨reply, -, ⟨⟩⟩ := tried_attempt.mp failed
        · obtain ⟨reply, rfl, same⟩ := tried_attempt.mp connected
          obtain rfl := Except.ok.inj same
          cases outcome with
          | ok value =>
            obtain ⟨rfl, rfl⟩ := tried_pure.mp going
            exact .reached
          | error message => exact .failed message later going
  · intro tries
    cases tries with
    | unbound message opening why =>
      cases why with
      | socket => exact .perform _ (.done _)
      | bind => exact .perform _ (.perform _ (.done _))
    | reached => exact .perform _ (.perform _ (.perform _ (.done _)))
    | failed message later going => exact .perform _ (.perform _ (.perform _ going))

/-- One more failure in front. -/
theorem Ends.cons {remote : SocketAddr} {message : String}
    (ends : Ends address remotes message events result) :
    Ends address (remote :: remotes) error (attempt address remote (.error message) ++ events)
      result := by
  have front (failed : List (SocketAddr × String)) (late : List NetEvent) :
      attempt address remote (.error message) ++ (failures address failed ++ late) =
        failures address ((remote, message) :: failed) ++ late := by
    simp [failures]
  cases ends with
  | reached failed last rest split =>
    rw [front]
    exact .reached _ last rest (by simp [split])
  | exhausted failed all =>
    have last : (failed.map Prod.snd).getLastD message =
        (((remote, message) :: failed).map Prod.snd).getLastD error := by
      rw [List.map_cons, List.getLastD_cons]
    rw [last, ← List.append_nil (failures address failed), front, List.append_nil]
    exact .exhausted _ (by simp [all])
  | unbound failed last rest why opening split unbound =>
    rw [front]
    exact .unbound _ last rest why opening (by simp [split]) unbound

/-- Failures in front leave the rest to be tried, with the last error. -/
theorem failures_tried (failed : List (SocketAddr × String))
    (tried : Tried (tryAddresses address remotes ((failed.map Prod.snd).getLastD error)) events
      result) :
    Tried (tryAddresses address (failed.map Prod.fst ++ remotes) error)
      (failures address failed ++ events) result := by
  induction failed generalizing error with
  | nil => exact tried
  | cons first failed ih =>
    obtain ⟨remote, message⟩ := first
    rw [List.map_cons, List.getLastD_cons] at tried
    simpa [failures] using tryAddresses_next.mpr (.failed message _ (ih tried))

private theorem tryAddresses_iff :
    Tried (tryAddresses address remotes error) events result ↔
      Ends address remotes error events result := by
  constructor
  · intro tried
    induction remotes generalizing error events with
    | nil =>
      obtain ⟨rfl, rfl⟩ := tried_throw.mp tried
      exact .exhausted [] rfl
    | cons remote rest ih =>
      cases tryAddresses_next.mp tried with
      | unbound message _ why => exact .unbound [] remote rest message _ rfl why
      | reached => exact .reached [] remote rest rfl
      | failed message later going => exact (ih going).cons
  · intro ends
    cases ends with
    | reached failed remote rest split =>
      rw [split]
      exact failures_tried failed (tryAddresses_next.mpr .reached)
    | exhausted failed all =>
      have nothing : Tried (tryAddresses address [] ((failed.map Prod.snd).getLastD error)) []
          (.error (.io ((failed.map Prod.snd).getLastD error))) := tried_throw.mpr ⟨rfl, rfl⟩
      simpa [all] using failures_tried failed nothing
    | unbound failed remote rest message opening split why =>
      rw [split]
      exact failures_tried failed (tryAddresses_next.mpr (.unbound message opening why))

/-- What an endpoint stands for, and what it takes to know. -/
inductive Resolves : Endpoint → List NetEvent → List SocketAddr → Prop where
  | addr (remote : SocketAddr) : Resolves (.addr remote) [] [remote]
  | domain (name : Text) (port : UInt16) (remotes : List SocketAddr) :
      Resolves (.domain name port)
        [⟨.lookup name port, (.ok remotes : Except String (List SocketAddr))⟩] remotes

private theorem lookupHost_ok {endpoint : Endpoint} :
    Tried (lookupHost endpoint) events (.ok remotes) ↔ Resolves endpoint events remotes := by
  constructor
  · intro tried
    cases endpoint with
    | addr remote =>
      obtain ⟨rfl, same⟩ := tried_pure.mp tried
      obtain rfl := Except.ok.inj same
      exact .addr remote
    | domain name port =>
      obtain ⟨reply, rfl, same⟩ := tried_attempt.mp tried
      cases reply with
      | error message => cases same
      | ok listed =>
        obtain rfl := Except.ok.inj same
        exact .domain name port _
  · intro resolves
    cases resolves with
    | addr remote => exact tried_pure.mpr ⟨rfl, rfl⟩
    | domain name port => exact tried_attempt.mpr ⟨_, rfl, rfl⟩

private theorem lookupHost_error {endpoint : Endpoint} {failure : ConnectError} :
    Tried (lookupHost endpoint) events (.error failure) ↔
      ∃ name port message, endpoint = .domain name port ∧
        events = [⟨.lookup name port, (.error message : Except String (List SocketAddr))⟩] ∧
        failure = .io message := by
  constructor
  · intro tried
    cases endpoint with
    | addr remote =>
      obtain ⟨-, ⟨⟩⟩ := tried_pure.mp tried
    | domain name port =>
      obtain ⟨reply, rfl, same⟩ := tried_attempt.mp tried
      cases reply with
      | ok listed => cases same
      | error message => exact ⟨name, port, message, rfl, rfl, Except.error.inj same⟩
  · rintro ⟨name, port, message, rfl, rfl, rfl⟩
    exact tried_attempt.mpr ⟨_, rfl, rfl⟩

/-- From a local address, the addresses of its kind are tried in order up to the first
that is reached, and none after it. -/
theorem bound_connect {endpoint : Endpoint} :
    Tried (connectTcp (some address) endpoint) events result ↔
      (∃ name port message, endpoint = .domain name port ∧
        events = [⟨.lookup name port, (.error message : Except String (List SocketAddr))⟩] ∧
        result = .error (.io message)) ∨
      ∃ found tries remotes, events = found ++ tries ∧ Resolves endpoint found remotes ∧
        Ends address (remotes.filter (·.ip.isIpv4 = address.isIpv4)) noAddress tries result := by
  change Tried (lookupHost endpoint >>= fun remotes =>
    tryAddresses address (remotes.filter (·.ip.isIpv4 = address.isIpv4)) noAddress) events result ↔ _
  simp only [tried_bind, lookupHost_ok, lookupHost_error, tryAddresses_iff]
  apply or_congr_left
  constructor
  · rintro ⟨_, ⟨name, port, message, named, looked, rfl⟩, rfl⟩
    exact ⟨name, port, message, named, looked, rfl⟩
  · rintro ⟨name, port, message, named, looked, rfl⟩
    exact ⟨_, ⟨name, port, message, named, looked, rfl⟩, rfl⟩

end Binding

section Failing

variable {build : Build} {opts : BuilderOpts} {events : List NetEvent} {error : ConnectError}

/-- A failure that has nothing to do with the handshake. -/
def ConnectError.Early (self : ConnectError) : Prop := self.isHandshakeError = false

theorem ioResult_early {Value : Type} (reply : Except String Value) (error : ConnectError)
    (failed : ioResult reply = .error error) : error.Early := by
  cases reply with
  | ok value => cases failed
  | error message =>
    obtain rfl := Except.error.inj failed
    rfl

private theorem tryAddresses_fails (address : IpAddr) (remotes : List SocketAddr) (error : String) :
    Fails ConnectError.Early (tryAddresses address remotes error) := by
  induction remotes generalizing error with
  | nil => exact .throw rfl
  | cons remote rest ih =>
    refine .bind (.attempt ioResult_early) fun _ => .bind (.attempt ioResult_early) fun _ => ?_
    refine .bind (.attempt fun _ _ failed => by cases failed) fun outcome => ?_
    cases outcome with
    | ok value => exact .pure _
    | error error => exact ih error

private theorem connectTcp_fails (localAddress : Option IpAddr) (target : Endpoint) :
    Fails ConnectError.Early (connectTcp localAddress target) := by
  cases localAddress with
  | none => exact .attempt ioResult_early
  | some address =>
    refine .bind ?_ fun remotes => tryAddresses_fails _ _ _
    cases target with
    | domain name port => exact .attempt ioResult_early
    | addr address => exact .pure _

private theorem proxyTarget_fails (proxy : Proxy) (url : Url) (pinned : Option SocketAddr) :
    Fails ConnectError.Early (proxyTarget proxy url pinned) := by
  unfold proxyTarget
  cases pinned with
  | some address => exact .pure _
  | none =>
    cases url.hostname with
    | ipv4 octets => exact .pure _
    | ipv6 octets => exact .pure _
    | domain name =>
      by_cases remote : proxy.remoteDns
      · simp only [remote, ↓reduceIte]
        exact .pure _
      · simp only [remote, Bool.false_eq_true, ↓reduceIte]
        refine .bind (.attempt ioResult_early) fun addresses => ?_
        cases addresses with
        | nil => exact .throw rfl
        | cons first rest => exact .pure _

private theorem openTunnel_fails (proxy : Proxy) (target : Target) :
    Fails ConnectError.Early (openTunnel proxy target) := by
  refine .attempt fun reply error failed => ?_
  cases reply with
  | error message =>
    obtain rfl := Except.error.inj failed
    rfl
  | ok stream =>
    simp only at failed
    cases answered : (Socks5.connect proxy target ⟨stream, []⟩).1 with
    | ok value =>
      rw [answered] at failed
      cases failed
    | error refused =>
      rw [answered] at failed
      obtain rfl := Except.error.inj failed
      rfl

private theorem dial_fails (schemed : opts.Schemed) : Fails ConnectError.Early (dial opts) := by
  unfold dial
  cases opts.proxy with
  | none =>
    cases opts.tcpAddress with
    | none => exact connectTcp_fails _ _
    | some address => exact connectTcp_fails _ _
  | some proxy =>
    simp only [connectThrough, schemed.isWeb, not_true_eq_false, ↓reduceIte]
    split
    · exact .throw rfl
    · refine .bind (proxyTarget_fails _ _ _) fun target => ?_
      exact .bind (connectTcp_fails _ _) fun _ => openTunnel_fails _ _

private theorem connectStream_fails (schemed : opts.Schemed) :
    Fails ConnectError.Early (connectStream build opts) := by
  refine .bind (.lift ?_) fun secure => .bind (.lift ?_) fun connector => .bind (dial_fails schemed) fun _ => ?_
  · intro error failed
    unfold isSecure at failed
    rcases schemed with plain | secured
    · simp [plain] at failed
    · simp [secured] at failed
  · intro error failed
    unfold connectorFor at failed
    split at failed
    · split at failed
      · obtain rfl := Except.error.inj failed
        rfl
      · cases failed
      · cases failed
      · obtain rfl := Except.error.inj failed
        rfl
    · cases failed
  · cases connector with
    | none => exact .pure _
    | some alpn =>
      simp only [startTls]
      split
      · exact .attempt ioResult_early
      · exact .throw rfl

theorem startHttp_fails (version : HttpVersion) : Fails ConnectError.Early (startHttp version) := by
  refine .attempt fun reply error failed => ?_
  cases reply with
  | ok value => cases failed
  | error message =>
    obtain rfl := Except.error.inj failed
    rfl

/-- A request was sent. -/
def Requested (events : List NetEvent) : Prop :=
  ∃ (uri : Text) (request : Request) (reply : Except HyperError Response),
    ⟨.send uri request, reply⟩ ∈ events

theorem Requested.after {opening : List NetEvent} (sent : Requested events) : Requested (opening ++ events) := by
  obtain ⟨uri, request, reply, member⟩ := sent
  exact ⟨uri, request, reply, List.mem_append_right _ member⟩

/-- What follows on a request has sent it. -/
theorem sendRequest_sent {Value : Type} {named : HyperError → ConnectError} {uri : Text}
    {request : Request} {next : Response → Connecting Value} {result : Except ConnectError Value}
    (tried : Tried (sendRequest named uri request >>= next) events result) : Requested events := by
  rcases tried_bind.mp tried with ⟨_, failed, -⟩ | ⟨_, late, response, rfl, done, -⟩
  · obtain ⟨reply, rfl, -⟩ := tried_attempt.mp failed
    exact ⟨uri, request, reply, .head _⟩
  · obtain ⟨reply, rfl, -⟩ := tried_attempt.mp done
    exact ⟨uri, request, reply, .head _⟩

private theorem http1Upgrade_failed {url : Url} {options : Options} {builder : HeaderMap}
    (tried : Tried (http1Upgrade build url options builder) events (.error error)) :
    error.Early ∨ Requested events := by
  rcases tried_bind.mp tried with ⟨_, failed, -⟩ | ⟨_, _, key, rfl, -, opening⟩
  · obtain ⟨reply, -, ⟨⟩⟩ := tried_attempt.mp failed
  · rcases tried_bind.mp opening with ⟨_, failed, ⟨⟩⟩ | ⟨_, _, _, rfl, -, sending⟩
    · exact .inl (startHttp_fails _ _ _ failed)
    · exact .inr (sendRequest_sent sending).after.after

private theorem http2Handshake_failed {url : Url} {options : Options} {builder : HeaderMap}
    (web : isWeb url.scheme)
    (tried : Tried (Http2.handshake build url options builder) events (.error error)) :
    error.Early ∨ Requested events := by
  rcases tried_bind.mp tried with ⟨_, failed, -⟩ | ⟨_, _, built, rfl, -, opening⟩
  · obtain ⟨-, refused⟩ := tried_lift.mp failed
    obtain ⟨scheme, named⟩ := (http2_scheme_iff url).mpr web
    simp [Http2.buildRequest, named, bind, Except.bind, pure, Except.pure] at refused
  · rcases tried_bind.mp opening with ⟨_, failed, ⟨⟩⟩ | ⟨_, _, _, rfl, -, sending⟩
    · exact .inl (startHttp_fails _ _ _ failed)
    · exact .inr (sendRequest_sent sending).after.after

/-- With another scheme nothing is done. -/
theorem connectVersioned_unschemed {result : Except ConnectError Negotiation}
    (other : ¬ opts.Schemed) (tried : Tried (connectVersioned build opts) events result) :
    events = [] ∧ result = .error .invalidHttpScheme := by
  have refused : isSecure opts.url = .error .invalidHttpScheme := by
    simp only [BuilderOpts.Schemed, not_or] at other
    rw [isSecure, if_neg other.1, if_neg other.2]
  have streaming {opening : List NetEvent} {outcome : Except ConnectError Unit}
      (streamed : Tried (connectStream build opts) opening outcome) :
      opening = [] ∧ outcome = .error .invalidHttpScheme := by
    unfold connectStream at streamed
    rw [refused] at streamed
    rcases tried_bind.mp streamed with ⟨_, failed, rfl⟩ | ⟨_, _, secure, rfl, asked, -⟩
    · obtain ⟨rfl, same⟩ := tried_lift.mp failed
      exact ⟨rfl, by rw [Except.error.inj same]⟩
    · obtain ⟨-, ⟨⟩⟩ := tried_lift.mp asked
  rcases tried_bind.mp tried with ⟨_, failed, rfl⟩ | ⟨_, _, _, rfl, streamed, -⟩
  · obtain ⟨rfl, same⟩ := streaming failed
    exact ⟨rfl, by rw [Except.error.inj same]⟩
  · obtain ⟨-, ⟨⟩⟩ := streaming streamed

/-- A client that fails for its handshake has asked for it, unless its URL is none for a
WebSocket, and then it has done nothing. -/
theorem handshake_error_sent
    (tried : Tried (connectVersioned build opts) events (.error error))
    (handshake : error.isHandshakeError) :
    (¬ opts.Schemed ∧ events = [] ∧ error = .invalidHttpScheme) ∨ (opts.Schemed ∧ Requested events) := by
  have late (early : error.Early) : False := by
    rw [ConnectError.Early, handshake] at early
    cases early
  by_cases schemed : opts.Schemed
  · refine .inr ⟨schemed, ?_⟩
    rcases tried_bind.mp tried with ⟨_, failed, ⟨⟩⟩ | ⟨_, rest, _, rfl, -, shaking⟩
    · exact (late (connectStream_fails schemed _ _ failed)).elim
    · have failed : error.Early ∨ Requested rest := by
        cases version : opts.version with
        | http1 =>
          simp only [version] at shaking
          exact http1Upgrade_failed shaking
        | http2 =>
          simp only [version] at shaking
          exact http2Handshake_failed schemed.isWeb shaking
      exact (failed.resolve_left late).after
  · obtain ⟨idle, refused⟩ := connectVersioned_unschemed schemed tried
    exact .inl ⟨schemed, idle, Except.error.inj refused⟩

/-- The peer answers with a page. -/
def tlsRefused : List NetEvent :=
  tlsStart ++ [⟨.send "/".toList (http1Request tlsBuild.features (textBytes "a") [7] .default []),
    (.ok { status := 200, headers := [] } : Except HyperError Response)⟩]

theorem handshake_error_sent_tls : tlsOpts.Schemed ∧ Requested tlsRefused := by
  have tried : Tried (connectVersioned tlsBuild tlsOpts) tlsRefused
      (.error (.handshake (.invalidStatusCode 200))) :=
    .perform _ (.perform _ (.perform _ (.perform _ (.perform _ (.done _)))))
  rcases handshake_error_sent tried rfl with ⟨-, -, ⟨⟩⟩ | sent
  exact sent

end Failing

end Yawc
