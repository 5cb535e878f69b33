import Yawc.Compression.WellFormed
import Yawc.Native.Handshake

/-! What a server answers to any list of header lines. -/

namespace Yawc

open WebSocketExtensions

/-- The lines all follow the grammar, and these are their extensions in order. -/
def Listed (lines : List Bytes) (extensions : List Offer.Extension) : Prop :=
  ∃ parts, List.Forall₂ (fun line part => ∃ text, toStr line = some text ∧ Offer.Line text part)
      lines parts ∧
    extensions = parts.flatten

/-- A window the server's compressor can keep to. -/
def Keeps (backend : Backend) (window : UInt8) : Prop :=
  match backend with
  | .zlib => 9 ≤ window ∧ window ≤ 15
  | .miniz => window = 15

/-- The extension is a well-formed offer, which says this and leaves the server
a window it can use. -/
structure Honorable (backend : Backend) (extension : Offer.Extension)
    (offer : WebSocketExtensions) : Prop where
  named : extension.name = permessageDeflate
  wellFormed : Offer.WellFormed extension.params
  means : Offer.Means extension.params offer
  allows : ∀ bits, offer.serverMaxWindowBits = some (some bits) →
    ∃ window, Keeps backend window ∧ window ≤ bits

/-- Every value the answer holds is in the header, and it holds no window
without one. -/
structure Printed (answer : WebSocketExtensions) (header : Text) : Prop where
  serverWindow : ∀ window, answer.serverMaxWindowBits = some window →
    ∃ bits, window = some bits ∧
      "; server_max_window_bits=".toList ++ decimal bits <:+: header
  clientWindow : ∀ window, answer.clientMaxWindowBits = some window →
    ∃ bits, window = some bits ∧
      "; client_max_window_bits=".toList ++ decimal bits <:+: header
  serverFlag : answer.serverNoContextTakeover →
    "; server_no_context_takeover".toList <:+: header
  clientFlag : answer.clientNoContextTakeover →
    "; client_no_context_takeover".toList <:+: header

/-- What an answer owes the offer it answers. -/
structure Answers (backend : Backend) (offer answer : WebSocketExtensions) : Prop where
  serverFlag : offer.serverNoContextTakeover → answer.serverNoContextTakeover
  clientFlag : offer.clientNoContextTakeover → answer.clientNoContextTakeover
  serverWindow : ∀ bits, offer.serverMaxWindowBits = some (some bits) →
    ∃ window, answer.serverMaxWindowBits = some (some window) ∧ window ≤ bits ∧
      Keeps backend window
  clientWindow : ∀ window, answer.clientMaxWindowBits = some window →
    ∃ offered bits, offer.clientMaxWindowBits = some offered ∧ window = some bits ∧
      8 ≤ bits ∧ bits ≤ 15 ∧ ∀ limit, offered = some limit → bits ≤ limit
  printed : Printed answer answer.display

/-- Honoring an offer only asks for the smallest window to be allowed. -/
theorem allows_iff {backend : Backend} {offer : WebSocketExtensions} (read : Offer.Read offer) :
    (∀ bits, offer.serverMaxWindowBits = some (some bits) →
      ∃ window, Keeps backend window ∧ window ≤ bits) ↔ offer.usable backend := by
  cases limit : offer.serverMaxWindowBits with
  | none => simp [usable, limit]
  | some value =>
    obtain ⟨bits, rfl, named⟩ := read.server value limit
    simp only [negotiable, Bool.and_eq_true, decide_eq_true_eq] at named
    simp only [usable, limit, Option.some.injEq, forall_eq', decide_eq_true_eq, UInt8.not_lt]
    cases backend with
    | zlib =>
      constructor
      · rintro ⟨window, ⟨low, -⟩, below⟩
        exact UInt8.le_trans low below
      · intro low
        exact ⟨bits, ⟨low, named.2⟩, UInt8.le_refl bits⟩
    | miniz =>
      constructor
      · rintro ⟨window, rfl, below⟩
        exact below
      · intro low
        exact ⟨15, rfl, low⟩

section Selection

/-- The offer an extension makes, if it makes one. -/
def taken (extension : Offer.Extension) : Option WebSocketExtensions :=
  if extension.name = permessageDeflate then Offer.offer extension.params else none

theorem honorable_iff {backend : Backend} {extension : Offer.Extension}
    {offer : WebSocketExtensions} :
    Honorable backend extension offer ↔ taken extension = some offer ∧ offer.usable backend := by
  constructor
  · rintro ⟨named, wellFormed, means, allows⟩
    have read := Offer.offer_eq_some_iff.mpr ⟨wellFormed, means⟩
    exact ⟨by rw [taken, if_pos named, read], (allows_iff (Offer.offer_read read)).mp allows⟩
  · rintro ⟨made, usable⟩
    unfold taken at made
    split at made
    · rename_i named
      obtain ⟨wellFormed, means⟩ := Offer.offer_eq_some_iff.mp made
      exact ⟨named, wellFormed, means, (allows_iff (Offer.offer_read made)).mpr usable⟩
    · simp at made

private theorem mapM_eq_some_iff {First Second : Type} {read : First → Option Second}
    {lines : List First}
    {parts : List Second} :
    lines.mapM read = some parts ↔ List.Forall₂ (fun line part => read line = some part) lines parts := by
  induction lines generalizing parts with
  | nil => simp [eq_comm]
  | cons line lines ih =>
    simp only [List.mapM_cons, Option.bind_eq_bind, Option.bind_eq_some_iff, Option.pure_def,
      Option.some.injEq, List.forall₂_cons_left_iff]
    constructor
    · rintro ⟨part, first, others, rest, rfl⟩
      exact ⟨part, others, first, ih.mp rest, rfl⟩
    · rintro ⟨part, others, first, rest, rfl⟩
      exact ⟨part, first, others, ih.mpr rest, rfl⟩

theorem parse_lines_iff {lines : List Bytes} {parts : List (List Offer.Extension)} :
    (lines.map toStr).mapM (fun line => line.bind Offer.parse) = some parts ↔
      List.Forall₂ (fun line part => ∃ text, toStr line = some text ∧ Offer.Line text part)
        lines parts := by
  rw [mapM_eq_some_iff, List.forall₂_map_left_iff]
  simp only [Option.bind_eq_some_iff, Offer.parse_eq_some_iff]

theorem offers_listed {lines : List Bytes} {extensions : List Offer.Extension}
    (listed : Listed lines extensions) :
    Offer.offers (lines.map toStr) = extensions.filterMap taken := by
  obtain ⟨parts, each, rfl⟩ := listed
  simp only [Offer.offers, parse_lines_iff.mpr each, List.filterMap_filter, decide_eq_true_eq]
  rfl

private theorem Listed.unique {lines : List Bytes} {first second : List Offer.Extension}
    (listed : Listed lines first) (listed' : Listed lines second) : first = second := by
  obtain ⟨parts, each, rfl⟩ := listed
  obtain ⟨parts', each', rfl⟩ := listed'
  have same := (parse_lines_iff.mpr each).symm.trans (parse_lines_iff.mpr each')
  rw [Option.some.inj same]

private theorem taken_read {extension : Offer.Extension} {offer : WebSocketExtensions}
    (made : taken extension = some offer) : Offer.Read offer := by
  unfold taken at made
  split at made
  · exact Offer.offer_read made
  · simp at made

theorem offers_unlisted {lines : List Bytes} (unlisted : ∀ extensions, ¬ Listed lines extensions) :
    Offer.offers (lines.map toStr) = [] := by
  unfold Offer.offers
  split
  · rfl
  · rename_i parts read
    exact absurd ⟨parts, parse_lines_iff.mp read, rfl⟩ (unlisted _)

end Selection

section Answer

/-- A window is written where it stands in the header. -/
theorem displayWindow_infix (before key behind : Text) {text : Text}
    (text_eq : text = "; ".toList ++ key ++ ['=']) {window : Option (Option UInt8)}
    (named : NamedWindow window) {value : Option UInt8} (held : window = some value) :
    ∃ bits, value = some bits ∧
      text ++ decimal bits <:+: before ++ displayWindow key window ++ behind := by
  obtain ⟨bits, rfl, allowed⟩ := named value held
  refine ⟨bits, rfl, before, behind, ?_⟩
  simp [text_eq, held, displayWindow, allowed]

private theorem displayFlag_infix (before key behind : Text) {text : Text}
    (text_eq : text = "; ".toList ++ key) {flag : Bool} (held : flag) :
    text <:+: before ++ displayFlag key flag ++ behind := by
  refine ⟨before, behind, ?_⟩
  simp [text_eq, held, displayFlag]

private theorem display_printed {answer : WebSocketExtensions} (named : answer.Named) :
    Printed answer answer.display where
  serverWindow := by
    intro window held
    have shown : ∃ bits, window = some bits ∧
        "; server_max_window_bits=".toList ++ decimal bits <:+: _ := displayWindow_infix permessageDeflate "server_max_window_bits".toList
      (displayWindow "client_max_window_bits".toList answer.clientMaxWindowBits ++
        displayFlag "server_no_context_takeover".toList answer.serverNoContextTakeover ++
        displayFlag "client_no_context_takeover".toList answer.clientNoContextTakeover)
      rfl named.server held
    simpa only [display, List.append_assoc] using shown
  clientWindow := by
    intro window held
    have shown : ∃ bits, window = some bits ∧
        "; client_max_window_bits=".toList ++ decimal bits <:+: _ := displayWindow_infix
      (permessageDeflate ++
        displayWindow "server_max_window_bits".toList answer.serverMaxWindowBits)
      "client_max_window_bits".toList
      (displayFlag "server_no_context_takeover".toList answer.serverNoContextTakeover ++
        displayFlag "client_no_context_takeover".toList answer.clientNoContextTakeover)
      rfl named.client held
    simpa only [display, List.append_assoc] using shown
  serverFlag := by
    intro held
    have shown : "; server_no_context_takeover".toList <:+: _ := displayFlag_infix
      (permessageDeflate ++
        displayWindow "server_max_window_bits".toList answer.serverMaxWindowBits ++
        displayWindow "client_max_window_bits".toList answer.clientMaxWindowBits)
      "server_no_context_takeover".toList
      (displayFlag "client_no_context_takeover".toList answer.clientNoContextTakeover) rfl held
    simpa only [display, List.append_assoc] using shown
  clientFlag := by
    intro held
    have shown : "; client_no_context_takeover".toList <:+: _ := displayFlag_infix
      (permessageDeflate ++
        displayWindow "server_max_window_bits".toList answer.serverMaxWindowBits ++
        displayWindow "client_max_window_bits".toList answer.clientMaxWindowBits ++
        displayFlag "server_no_context_takeover".toList answer.serverNoContextTakeover)
      "client_no_context_takeover".toList [] rfl held
    simpa only [display, List.append_assoc, List.append_nil] using shown

private theorem clampWindow_keeps (bits : UInt8) : Keeps .zlib (clampWindow bits) := by
  unfold Keeps clampWindow
  grind

/-- The window promised for the server is one it can use, within the limit. -/
theorem merge_serverWindow {backend : Backend} (server : DeflateOptions)
    {offer : WebSocketExtensions} (read : Offer.Read offer) (usable : offer.usable backend)
    {bits : UInt8} (offered : offer.serverMaxWindowBits = some (some bits)) :
    ∃ window, (server.merge backend offer).serverMaxWindowBits = some (some window) ∧
      window ≤ bits ∧ Keeps backend window := by
  obtain ⟨value, same, named⟩ := read.server _ offered
  obtain rfl := Option.some.inj same
  simp only [negotiable, Bool.and_eq_true, decide_eq_true_eq] at named
  simp only [WebSocketExtensions.usable, offered, decide_eq_true_eq, UInt8.not_lt] at usable
  cases backend with
  | miniz =>
    refine ⟨bits, by simp [DeflateOptions.merge, offered], UInt8.le_refl bits, ?_⟩
    exact UInt8.le_antisymm named.2 usable
  | zlib =>
    cases preference : server.serverMaxWindowBits with
    | none =>
      refine ⟨bits, ?_, UInt8.le_refl bits, usable, named.2⟩
      simp [DeflateOptions.merge, offered, preference, mergeWindow]
    | some preferred =>
      obtain ⟨low, high⟩ := clampWindow_keeps preferred
      refine ⟨min bits (clampWindow preferred), ?_, ?_, ?_, ?_⟩
      · simp [DeflateOptions.merge, offered, preference, mergeWindow]
      all_goals
        rw [Std.min_eq_if]
        have limit : 9 ≤ bits := usable
        have top := named.2
        grind

/-- The client's window is limited only as far as it offered, by a value the
header may name. -/
theorem merge_clientWindow (backend : Backend) (server : DeflateOptions)
    {offer : WebSocketExtensions} (read : Offer.Read offer) {window : Option UInt8}
    (answered : (server.merge backend offer).clientMaxWindowBits = some window) :
    ∃ offered bits, offer.clientMaxWindowBits = some offered ∧ window = some bits ∧
      8 ≤ bits ∧ bits ≤ 15 ∧ ∀ limit, offered = some limit → bits ≤ limit := by
  obtain ⟨bits, rfl, named⟩ := (server.merge_named backend read).client window answered
  simp only [negotiable, Bool.and_eq_true, decide_eq_true_eq] at named
  cases backend with
  | miniz => simp [DeflateOptions.merge] at answered
  | zlib =>
    cases offered : offer.clientMaxWindowBits with
    | none => simp [DeflateOptions.merge, offered] at answered
    | some value =>
      refine ⟨value, bits, rfl, rfl, named.1, named.2, ?_⟩
      rintro limit rfl
      simp only [DeflateOptions.merge, offered, Option.some.injEq] at answered
      rw [← answered]
      cases server.clientMaxWindowBits with
      | none => exact UInt8.le_refl limit
      | some preferred =>
        simp only [Option.map_some, mergeWindow, Std.min_eq_if]
        grind

private theorem merge_answers (backend : Backend) (server : DeflateOptions)
    {offer : WebSocketExtensions}
    (read : Offer.Read offer) (usable : offer.usable backend) :
    Answers backend offer (server.merge backend offer) where
  serverFlag := by
    intro offered
    simp [DeflateOptions.merge, offered]
  clientFlag := by
    intro offered
    simp [DeflateOptions.merge, offered]
  serverWindow := fun _ offered => merge_serverWindow server read usable offered
  clientWindow := fun _ answered => merge_clientWindow backend server read answered
  printed := display_printed (server.merge_named backend read)

end Answer

section Agree

variable {backend : Backend} {extensions : List Offer.Extension}

private theorem find_offer_none :
    (extensions.filterMap taken).find? (usable backend) = none ↔
      ∀ extension ∈ extensions, ∀ offer, ¬ Honorable backend extension offer := by
  simp only [List.find?_eq_none, List.mem_filterMap, honorable_iff]
  constructor
  · rintro none extension member offer ⟨made, usable⟩
    exact none offer ⟨extension, member, made⟩ usable
  · rintro none offer ⟨extension, member, made⟩ usable
    exact none extension member offer ⟨made, usable⟩

/-- The offer found is made by the first extension that makes one that can be
honored. -/
theorem find_offer_some {offer : WebSocketExtensions}
    (found : (extensions.filterMap taken).find? (usable backend) = some offer) :
    ∃ earlier extension later, extensions = earlier ++ extension :: later ∧
      Honorable backend extension offer ∧
      ∀ other ∈ earlier, ∀ offer', ¬ Honorable backend other offer' := by
  rw [List.find?_filterMap] at found
  obtain ⟨extension, first, made⟩ := Option.bind_eq_some_iff.mp found
  obtain ⟨honors, earlier, later, split, before⟩ := List.find?_eq_some_iff_append.mp first
  rw [made, Option.any_some] at honors
  refine ⟨earlier, extension, later, split, honorable_iff.mpr ⟨made, honors⟩, ?_⟩
  intro other member offer' honorable
  obtain ⟨made', usable'⟩ := honorable_iff.mp honorable
  have unmade := before other member
  simp [made', usable'] at unmade

/-- The server declines exactly if compression is disabled or the lines, all of
them well formed, hold no offer it can honor. Otherwise it gives the earliest
such offer a valid answer. -/
theorem agree_earliest (backend : Backend) (server : Option DeflateOptions) (lines : List Bytes) :
    (agree backend server (Offer.offers (lines.map toStr)) = none ↔
      server = none ∨ ∀ extensions, Listed lines extensions →
        ∀ extension ∈ extensions, ∀ offer, ¬ Honorable backend extension offer) ∧
    ∀ answer, agree backend server (Offer.offers (lines.map toStr)) = some answer →
      ∃ options earlier extension later offer, server = some options ∧
        Listed lines (earlier ++ extension :: later) ∧
        Honorable backend extension offer ∧
        (∀ other ∈ earlier, ∀ offer', ¬ Honorable backend other offer') ∧
        answer = options.merge backend offer ∧ Answers backend offer answer := by
  cases server with
  | none => simp [agree]
  | some options =>
    by_cases whole : ∃ extensions, Listed lines extensions
    · obtain ⟨extensions, listed⟩ := whole
      simp only [agree, offers_listed listed, Option.map_eq_none_iff, find_offer_none,
        reduceCtorEq, false_or]
      refine ⟨⟨?_, fun none => none extensions listed⟩, ?_⟩
      · intro none others listed'
        rwa [listed'.unique listed]
      · intro answer agreed
        obtain ⟨offer, found, rfl⟩ := Option.map_eq_some_iff.mp agreed
        obtain ⟨earlier, extension, later, rfl, honorable, before⟩ := find_offer_some found
        obtain ⟨made, usable⟩ := honorable_iff.mp honorable
        refine ⟨options, earlier, extension, later, offer, rfl, listed, honorable, before, rfl, ?_⟩
        exact merge_answers backend options (taken_read made) usable
    · simp only [not_exists] at whole
      have nothing := offers_unlisted whole
      simp [agree, nothing, whole]

end Agree

/-- An offer zlib cannot honor in front of one that leaves the client's window
to the server. -/
def twoOffers : Text :=
  "permessage-deflate; server_max_window_bits=8, permessage-deflate; client_max_window_bits".toList

theorem agree_earliest_twoOffers :
    agree .zlib (some .default) (Offer.offers ([asBytes twoOffers].map toStr)) =
        some ⟨none, some (some 9), false, false⟩ ∧
      ∃ options earlier extension later offer, some DeflateOptions.default = some options ∧
        Listed [asBytes twoOffers] (earlier ++ extension :: later) ∧
        Honorable .zlib extension offer ∧
        (∀ other ∈ earlier, ∀ offer', ¬ Honorable .zlib other offer') ∧
        ⟨none, some (some 9), false, false⟩ = options.merge .zlib offer ∧
        Answers .zlib offer ⟨none, some (some 9), false, false⟩ := by
  have answered : agree .zlib (some .default) (Offer.offers ([asBytes twoOffers].map toStr)) =
      some ⟨none, some (some 9), false, false⟩ := by
    decide +kernel
  exact ⟨answered, (agree_earliest .zlib (some .default) [asBytes twoOffers]).2 _ answered⟩

/-- A line that is not well formed takes the offers of the other lines with it. -/
theorem malformed_line_silences :
    agree .zlib (some .default)
        (Offer.offers ([asBytes permessageDeflate, asBytes [';']].map toStr)) = none ∧
      toStr (asBytes permessageDeflate) = some permessageDeflate ∧
      Offer.Line permessageDeflate [⟨permessageDeflate, []⟩] ∧
      Honorable .zlib ⟨permessageDeflate, []⟩ .default := by
  refine ⟨by decide +kernel, by decide +kernel, ?_, ?_⟩
  · exact Offer.parse_eq_some_iff.mp (by decide +kernel)
  · exact honorable_iff.mpr ⟨by decide +kernel, by decide +kernel⟩

end Yawc
