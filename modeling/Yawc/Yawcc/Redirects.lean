import Yawc.Yawcc.Connection

/-! What a chain of redirects can see of the configuration. -/

namespace Yawc.Yawcc

section Checks

theorem bind_ok {Value Other : Type} {first : Except String Value}
    {next : Value → Except String Other} {result : Other} :
    (first >>= next) = .ok result ↔ ∃ value, first = .ok value ∧ next value = .ok result := by
  cases first with
  | error error => simp [bind, Except.bind]
  | ok value => simp [bind, Except.bind]

theorem ensure_ok {condition : Bool} {message : String} {value : Unit} :
    ensure condition message = .ok value ↔ condition = true := by
  unfold ensure
  cases condition with
  | false => simp
  | true => simp

theorem context_ok {Value : Type} {value : Option Value} {message : String} {result : Value} :
    context value message = .ok result ↔ value = some result := by
  cases value with
  | none => simp [context]
  | some value => simp [context]

end Checks

/-- What the documentation of the `url` crate says of clearing the credentials of a URL
that has a host and is neither a file nor opaque. -/
structure Urls.Documented {Url Host : Type} (urls : Urls Url Host) : Prop where
  usernameCleared : ∀ url, validateUrl urls url = .ok () → urls.username (urls.setUsername url []) = []
  passwordCleared : ∀ url, validateUrl urls url = .ok () →
    urls.password (urls.setPassword url none) = none
  usernameKept : ∀ url, urls.username (urls.setPassword url none) = urls.username url
  validKept : ∀ url, validateUrl urls url = .ok () →
    validateUrl urls (urls.setUsername url []) = .ok ()

section Chain

variable {Url Host : Type} {urls : Urls Url Host} {crates : Crates} {args : Args Url}
  {config : Config Url}

/-- What a redirect that is followed does to the variables of the loop. -/
structure Followed (urls : Urls Url Host) (config : Config Url) (hop next : Hop Url) : Prop where
  clean : hasCredentials urls next.url = false
  secure : urls.scheme hop.url = "wss".toList → urls.scheme next.url = "wss".toList
  same : origin urls hop.url = origin urls next.url →
    next.headers = hop.headers ∧ next.useOverride = hop.useOverride
  other : origin urls hop.url ≠ origin urls next.url →
    config.args.cert = none ∧ next.headers = [] ∧ next.useOverride = false

/-- A client certificate is shown to one origin only. -/
theorem Followed.stays {hop next : Hop Url} (followed : Followed urls config hop next)
    (cert : config.args.cert.isSome) : origin urls next.url = origin urls hop.url := by
  by_contra changed
  have none := (followed.other fun same => changed same.symm).1
  simp [none] at cert

/-- A contact made with the variables of the loop. -/
structure Contact.At (urls : Urls Url Host) (crates : Crates) (config : Config Url) (hop : Hop Url)
    (contact : Contact Url) : Prop where
  url : contact.url = hop.url
  address : contact.overrideAddress = config.overrideAddress hop.useOverride
  request : ∀ headers, contact.request = some headers → ∃ key,
    handshakeHeaders urls crates config.args.subprotocols hop.url hop.headers key = .ok headers

/-- The contacts of a run, each but the first behind a redirect that was followed. -/
inductive Visits (urls : Urls Url Host) (crates : Crates) (config : Config Url) :
    Hop Url → List (Contact Url) → Prop where
  | nil {hop : Hop Url} : Visits urls crates config hop []
  | last {hop : Hop Url} {contact : Contact Url} (here : contact.At urls crates config hop) :
      Visits urls crates config hop [contact]
  | cons {hop next : Hop Url} {contact : Contact Url} {later : List (Contact Url)}
      (here : contact.At urls crates config hop) (followed : Followed urls config hop next)
      (rest : Visits urls crates config next later) :
      Visits urls crates config hop (contact :: later)

namespace Visits

variable {hop : Hop Url} {contacts : List (Contact Url)}

/-- What redirects keep holds wherever a contact is made. -/
theorem every {motive : Hop Url → Prop}
    (kept : ∀ {hop next}, Followed urls config hop next → motive hop → motive next)
    (visits : Visits urls crates config hop contacts) (start : motive hop) :
    ∀ contact ∈ contacts, ∃ hop, motive hop ∧ contact.At urls crates config hop := by
  induction visits with
  | nil => simp
  | last here =>
    intro contact member
    rw [List.mem_singleton.mp member]
    exact ⟨_, start, here⟩
  | cons here followed rest ih =>
    intro contact member
    rcases List.mem_cons.mp member with rfl | later
    · exact ⟨_, start, here⟩
    · exact ih (kept followed start) contact later

private theorem clean (visits : Visits urls crates config hop contacts)
    (start : hasCredentials urls hop.url = false) :
    ∀ contact ∈ contacts, hasCredentials urls contact.url = false := by
  intro contact member
  obtain ⟨hop, kept, here⟩ := visits.every (motive := fun hop => hasCredentials urls hop.url = false)
    (fun followed _ => followed.clean) start contact member
  rw [here.url]
  exact kept

private theorem secure (visits : Visits urls crates config hop contacts)
    (start : urls.scheme hop.url = "wss".toList) :
    ∀ contact ∈ contacts, urls.scheme contact.url = "wss".toList := by
  intro contact member
  obtain ⟨hop, kept, here⟩ := visits.every
    (motive := fun hop => urls.scheme hop.url = "wss".toList)
    (fun followed wss => followed.secure wss) start contact member
  rw [here.url]
  exact kept

/-- With a client certificate the origin stays the same. -/
theorem pinned (visits : Visits urls crates config hop contacts) (cert : config.args.cert.isSome) :
    ∀ contact ∈ contacts, origin urls contact.url = origin urls hop.url := by
  intro contact member
  obtain ⟨next, kept, here⟩ := visits.every
    (motive := fun next => origin urls next.url = origin urls hop.url)
    (fun followed kept => (followed.stays cert).trans kept) rfl contact member
  rw [here.url]
  exact kept

end Visits

section Headers

variable {subprotocols : List Text} {url : Url} {key : Text} {headers : HeaderMap}

end Headers

namespace Visits

variable {hop : Hop Url} {contacts : List (Contact Url)}

end Visits

end Chain

section Sample

/-- A URL in its parts. -/
structure Parts where
  scheme : Text
  username : Text
  password : Option Text
  host : Option Text
  port : Option UInt16
  path : Text
  deriving DecidableEq

def Parts.knownPort (self : Parts) : Option UInt16 :=
  if self.scheme = ['w', 's'] then some 80 else if self.scheme = ['w', 's', 's'] then some 443 else none

/-- URLs in their parts, with a table of the locations that can be joined. -/
def Parts.urls (locations : List (Text × Parts)) : Urls Parts Text where
  scheme := scheme
  username := username
  password := password
  host := host
  port := port
  portOrKnownDefault := fun url => url.port <|> url.knownPort
  path := path
  query := fun _ => none
  fragment := fun _ => none
  target := path
  join := fun _ location => locations.lookup location
  setScheme := fun url scheme => { url with scheme }
  setUsername := fun url username => { url with username }
  setPassword := fun url password => { url with password }
  display := id

private theorem Parts.documented (locations : List (Text × Parts)) :
    (Parts.urls locations).Documented where
  usernameCleared _ _ := rfl
  passwordCleared _ _ := rfl
  usernameKept _ := rfl
  validKept _ valid := valid

/-- Every text is a header value, and base64 of the one text that is encoded. -/
def Crates.sample : Crates where
  headerName := fun _ => none
  headerValue := fun text => .ok (asBytes text)
  toStrError := "failed to convert header to a str"
  uri := fun _ => true
  status := fun status => Nat.repr status.toNat
  encode := fun _ => ['d', 'T', 'p', 'w']
  percentDecode := some
  sha1 := fun _ => []

def Parts.at (host : Char) : Parts :=
  { scheme := ['w', 's', 's'], username := [], password := none, host := some [host], port := none
    path := ['/'] }

def twoServers : Urls Parts Text :=
  Parts.urls [(['/', '/', 'b'], .at 'b'), (['/', '/', 'a'], .at 'a')]

def Args.sample : Args Parts where
  url := { Parts.at 'a' with username := ['u'], password := some ['p'] }
  headers := []
  tcpHost := some ['x']
  proxy := none
  subprotocols := []
  origin := none
  auth := none
  host := none
  cert := none
  location := true
  maxRedirects := 2

end Sample

end Yawc.Yawcc
