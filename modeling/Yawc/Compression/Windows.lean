import Yawc.Compression.Wire

/-! Whether each side keeps to the windows the server's answer names, with zlib
on both sides. -/

namespace Yawc

open WebSocketExtensions

/-- The server's answer to the client's own offer. -/
def answerTo (client server : DeflateOptions) : Option WebSocketExtensions :=
  agree .zlib (some server) (Offer.offers [some (ofOptions .zlib client).display])

/-- The window an answer allows in one direction. -/
def limit (window : Option (Option UInt8)) : UInt8 := window.join.getD 15

/-- No compressor exceeds the window the answer names, and every decompressor
covers the window of the peer's compressor. -/
def WindowsKept (client server : DeflateOptions) : Prop :=
  match answerTo client server with
  | none => True
  | some answer =>
    ∃ clientSide serverSide,
      CompressionConfig.resolve (fromStr answer.display) (some client.level) .client =
        .ok (some clientSide) ∧
      CompressionConfig.resolve (some answer) (some server.level) .server = .ok (some serverSide) ∧
      clientSide.outgoing.builtWindow ≤ limit answer.clientMaxWindowBits ∧
      serverSide.outgoing.builtWindow ≤ limit answer.serverMaxWindowBits ∧
      clientSide.outgoing.builtWindow ≤ serverSide.incoming.builtWindow ∧
      serverSide.outgoing.builtWindow ≤ clientSide.incoming.builtWindow

/-- The server takes the client's offer: it leaves the server's window open or
limits it to one the compressor can use. -/
def Accepted (client : DeflateOptions) : Prop :=
  ∀ bits, client.serverMaxWindowBits = some bits → 9 ≤ bits ∧ bits ≤ 15

/-- The server accepts the offer, the client offers to limit its own window, and
one of the two asks for 8 bits or the server for less. -/
def EightBitClientWindow (client server : DeflateOptions) : Prop :=
  Accepted client ∧
    ∃ bits, client.clientMaxWindowBits = some bits ∧
      (bits = 8 ∨ ∃ preferred, server.clientMaxWindowBits = some preferred ∧ preferred ≤ 8)

section Offered

variable (client server : DeflateOptions)

private theorem offers_display (extensions : WebSocketExtensions) :
    Offer.offers [some extensions.display] =
      (Offer.offer (extensions.parts.map Part.read)).toList := by
  simp only [Offer.offers, List.mapM_cons, List.mapM_nil, Option.bind_some,
    Offer.parse_display, Option.bind_eq_bind, Option.pure_def, List.flatten_cons,
    List.flatten_nil, List.append_nil, List.filter_cons, List.filter_nil, decide_true, ↓reduceIte,
    List.filterMap_cons, List.filterMap_nil]
  split <;> simp_all

private theorem negotiable_iff (bits : UInt8) : negotiable bits ↔ 8 ≤ bits ∧ bits ≤ 15 := by
  simp [negotiable]

private theorem answerTo_accepted (accepted : Accepted client) :
    answerTo client server = some (server.merge .zlib (Offer.heard (ofOptions .zlib client))) := by
  simp only [answerTo, agree, offers_display, Offer.offer_display]
  cases window : client.serverMaxWindowBits with
  | none => simp [Offer.heard, ofOptions, window, usable]
  | some bits =>
    obtain ⟨low, high⟩ := accepted bits window
    have named : negotiable bits := (negotiable_iff bits).mpr ⟨Nat.le_trans (by decide) low, high⟩
    simp [Offer.heard, ofOptions, window, usable, Option.filter, named, smallestWindow,
      UInt8.not_lt.mpr low]

private theorem answerTo_declined (declined : ¬ Accepted client) :
    answerTo client server = none := by
  obtain ⟨bits, bad⟩ := Classical.not_forall.mp declined
  obtain ⟨window, outside⟩ := Classical.not_imp.mp bad
  simp only [answerTo, agree, offers_display, Offer.offer_display]
  by_cases named : negotiable bits
  · have small : bits < 9 := by
      apply UInt8.not_le.mp
      exact fun low => outside ⟨low, ((negotiable_iff bits).mp named).2⟩
    simp [Offer.heard, ofOptions, window, usable, Option.filter, named, smallestWindow, small]
  · simp [Offer.heard, ofOptions, window, Option.filter, named]

end Offered

/-- zlib turns a window of 8 bits into 9, and keeps every other one. -/
private theorem built_le_limit_iff {window : Option (Option UInt8)} (named : NamedWindow window) :
    (window.join.map clampWindow).getD 15 ≤ limit window ↔ window ≠ some (some 8) := by
  cases window with
  | none => simp [limit]
  | some value =>
    obtain ⟨bits, rfl, allowed⟩ := named value rfl
    exact negotiable_induction (motive := fun bits =>
      ((some (some bits)).join.map clampWindow).getD 15 ≤ limit (some (some bits)) ↔
        some (some bits) ≠ some (some 8)) allowed (by decide)

private theorem clampWindow_large (bits : UInt8) : 9 ≤ clampWindow bits := by
  unfold clampWindow
  grind

private theorem clampNegotiable_eight_iff (bits : UInt8) : clampNegotiable bits = 8 ↔ bits ≤ 8 := by
  unfold clampNegotiable
  grind

private theorem min_eight_iff {first second : UInt8} (low : 8 ≤ first) (low' : 8 ≤ second) :
    min first second = 8 ↔ first = 8 ∨ second = 8 := by
  rw [Std.min_eq_if]
  grind

/-- The server promises only windows it can compress with. -/
private theorem serverWindow_large (client server : DeflateOptions) (accepted : Accepted client) :
    (server.merge .zlib (Offer.heard (ofOptions .zlib client))).serverMaxWindowBits ≠
      some (some 8) := by
  have large : ∀ bits, clampWindow bits ≠ 8 := by
    intro bits
    have := clampWindow_large bits
    grind
  cases window : client.serverMaxWindowBits with
  | none =>
    cases preferred : server.serverMaxWindowBits with
    | none => simp [DeflateOptions.merge, Offer.heard, ofOptions, window, preferred]
    | some preference =>
      simpa [DeflateOptions.merge, Offer.heard, ofOptions, window, preferred] using large preference
  | some bits =>
    obtain ⟨low, high⟩ := accepted bits window
    have named : negotiable bits := (negotiable_iff bits).mpr ⟨Nat.le_trans (by decide) low, high⟩
    cases preferred : server.serverMaxWindowBits with
    | none =>
      have own : bits ≠ 8 := by grind
      simpa [DeflateOptions.merge, Offer.heard, ofOptions, window, preferred, Option.filter, named,
        mergeWindow] using own
    | some preference =>
      have kept := clampWindow_large preference
      have smaller : min bits (clampWindow preference) ≠ 8 := by
        rw [Ne, min_eight_iff (by grind) (by grind)]
        grind
      simpa [DeflateOptions.merge, Offer.heard, ofOptions, window, preferred, Option.filter, named,
        mergeWindow] using smaller

/-- The answer names an 8-bit client window when either side asks for one. -/
private theorem clientWindow_eight_iff (client server : DeflateOptions) :
    (server.merge .zlib (Offer.heard (ofOptions .zlib client))).clientMaxWindowBits =
        some (some 8) ↔
      ∃ bits, client.clientMaxWindowBits = some bits ∧
        (bits = 8 ∨ ∃ preferred, server.clientMaxWindowBits = some preferred ∧ preferred ≤ 8) := by
  cases window : client.clientMaxWindowBits with
  | none => simp [DeflateOptions.merge, Offer.heard, ofOptions, window]
  | some bits =>
    cases preferred : server.clientMaxWindowBits with
    | none =>
      by_cases named : negotiable bits
      · simp [DeflateOptions.merge, Offer.heard, ofOptions, window, preferred, Option.filter, named,
          mergeWindow]
      · have other : bits ≠ 8 := by
          rintro rfl
          exact named (by decide)
        simp [DeflateOptions.merge, Offer.heard, ofOptions, window, preferred, Option.filter, named,
          mergeWindow, other]
    | some preference =>
      have clamped := clampNegotiable_eight_iff preference
      by_cases named : negotiable bits
      · have low := ((negotiable_iff bits).mp named).1
        have kept : 8 ≤ clampNegotiable preference := by
          unfold clampNegotiable
          grind
        simp [DeflateOptions.merge, Offer.heard, ofOptions, window, preferred, Option.filter, named,
          mergeWindow, min_eight_iff low kept, clamped]
      · have other : bits ≠ 8 := by
          rintro rfl
          exact named (by decide)
        simp [DeflateOptions.merge, Offer.heard, ofOptions, window, preferred, Option.filter, named,
          mergeWindow, other, clamped]

/-- Every window is kept to unless the answer promises an 8-bit client window,
which the client's compressor cannot use. -/
theorem windowsKept_iff (client server : DeflateOptions) :
    WindowsKept client server ↔ ¬ EightBitClientWindow client server := by
  by_cases accepted : Accepted client
  · have agreed := answerTo_accepted client server accepted
    have named := agree_named agreed
    have server_kept := (built_le_limit_iff named.server).mpr
      (serverWindow_large client server accepted)
    have client_kept := (built_le_limit_iff named.client).trans
      (not_congr (clientWindow_eight_iff client server))
    rw [EightBitClientWindow, and_iff_right accepted, ← client_kept]
    simp only [WindowsKept, agreed, fromStr_display named, CompressionConfig.resolve,
      Except.ok.injEq, Option.some.injEq]
    constructor
    · rintro ⟨clientSide, serverSide, rfl, rfl, kept, -⟩
      exact kept
    · intro kept
      exact ⟨_, _, rfl, rfl, kept, server_kept, UInt8.le_refl _, UInt8.le_refl _⟩
  · have unanswered := answerTo_declined client server accepted
    simp [WindowsKept, EightBitClientWindow, unanswered, accepted]

/-- A client with default settings that offers 8 bits is answered with them,
and compresses with 9. -/
theorem eightBitOffer_not_kept :
    ¬ WindowsKept ⟨6, none, some 8, false, false, 0⟩ .default := by
  have answered : answerTo ⟨6, none, some 8, false, false, 0⟩ .default =
      some ⟨none, some (some 8), false, false⟩ := by
    decide +kernel
  have resolved : CompressionConfig.resolve
      (fromStr (WebSocketExtensions.mk none (some (some 8)) false false).display) (some 6) .client =
      .ok (some ⟨6, ⟨false, some 9⟩, ⟨false, none⟩⟩) := by
    decide +kernel
  intro kept
  simp only [WindowsKept, answered, resolved] at kept
  obtain ⟨clientSide, serverSide, built, -, small, -⟩ := kept
  obtain rfl := Option.some.inj (Except.ok.inj built)
  exact absurd small (by decide)

end Yawc
