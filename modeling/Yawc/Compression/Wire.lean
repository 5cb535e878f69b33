import Yawc.Compression.Offer

/-! Both readers understand what `display` writes. -/

namespace Yawc

/-- A parameter as `display` writes it: its key and the window it names. -/
abbrev Part := Text × Option UInt8

namespace Part

def write (part : Part) : Text :=
  "; ".toList ++ part.1 ++ match part.2 with
    | some bits => '=' :: decimal bits
    | none => []

/-- The parameter as a reader reports it. -/
def read (part : Part) : Text × Option Text := (part.1, part.2.map decimal)

/-- Keys are words, and only windows that may be named are. -/
structure Plain (part : Part) : Prop where
  named : part.1 ≠ []
  word : ∀ char ∈ part.1, isKeyChar char
  window : ∀ bits, part.2 = some bits → negotiable bits

end Part

namespace WebSocketExtensions

def windowPart (key : Text) : Option (Option UInt8) → List Part
  | some (some bits) => [(key, if negotiable bits then some bits else none)]
  | some none => [(key, none)]
  | none => []

def flagPart (key : Text) (flag : Bool) : List Part :=
  if flag then [(key, none)] else []

def parts (self : WebSocketExtensions) : List Part :=
  windowPart "server_max_window_bits".toList self.serverMaxWindowBits ++
    windowPart "client_max_window_bits".toList self.clientMaxWindowBits ++
    flagPart "server_no_context_takeover".toList self.serverNoContextTakeover ++
    flagPart "client_no_context_takeover".toList self.clientNoContextTakeover

private theorem displayWindow_eq (key : Text) (window : Option (Option UInt8)) :
    displayWindow key window = (windowPart key window).flatMap Part.write := by
  match window with
  | none => rfl
  | some none => simp [displayWindow, windowPart, Part.write]
  | some (some bits) =>
    by_cases named : negotiable bits <;> simp [displayWindow, windowPart, Part.write, named]

private theorem displayFlag_eq (key : Text) (flag : Bool) :
    displayFlag key flag = (flagPart key flag).flatMap Part.write := by
  cases flag <;> simp [displayFlag, flagPart, Part.write]

theorem display_eq (self : WebSocketExtensions) :
    self.display = permessageDeflate ++ self.parts.flatMap Part.write := by
  simp only [display, parts, displayWindow_eq, displayFlag_eq, List.flatMap_append,
    List.append_assoc]

private theorem windowPart_plain {key : Text} (named : key ≠ [])
    (word : ∀ char ∈ key, isKeyChar char) (window : Option (Option UInt8)) :
    ∀ part ∈ windowPart key window, Part.Plain part := by
  intro part member
  match window, member with
  | some none, member =>
    obtain rfl := List.mem_singleton.mp member
    exact ⟨named, word, nofun⟩
  | some (some bits), member =>
    obtain rfl := List.mem_singleton.mp member
    refine ⟨named, word, fun value same => ?_⟩
    by_cases allowed : negotiable bits
    · simp only [allowed, ↓reduceIte, Option.some.injEq] at same
      exact same ▸ allowed
    · simp [allowed] at same

private theorem flagPart_plain {key : Text} (named : key ≠ [])
    (word : ∀ char ∈ key, isKeyChar char) (flag : Bool) :
    ∀ part ∈ flagPart key flag, Part.Plain part := by
  intro part member
  cases flag with
  | false => simp [flagPart] at member
  | true =>
    obtain rfl := List.mem_singleton.mp member
    exact ⟨named, word, nofun⟩

theorem parts_plain (self : WebSocketExtensions) : ∀ part ∈ self.parts, Part.Plain part := by
  intro part member
  simp only [parts, List.mem_append] at member
  rcases member with ((server | client) | server) | client
  · exact windowPart_plain (by decide) (every_char (by decide)) _ part server
  · exact windowPart_plain (by decide) (every_char (by decide)) _ part client
  · exact flagPart_plain (by decide) (every_char (by decide)) _ part server
  · exact flagPart_plain (by decide) (every_char (by decide)) _ part client

end WebSocketExtensions

section Scanning

/-- A character class ends at the first character outside it. -/
theorem span_word {class' : Char → Bool} {word rest : Text}
    (inside : ∀ char ∈ word, class' char) (outside : ∀ char ∈ rest.head?, class' char = false) :
    (word ++ rest).takeWhile class' = word ∧ (word ++ rest).dropWhile class' = rest := by
  rw [List.takeWhile_append_of_pos inside, List.dropWhile_append_of_pos inside]
  cases rest with
  | nil => simp
  | cons char rest => simp [outside char rfl]

theorem isTchar_of_isKeyChar {char : Char} (key : isKeyChar char) : isTchar char := by
  simp only [isKeyChar, isTchar, Bool.or_eq_true, decide_eq_true_eq] at key ⊢
  rcases key with word | rfl
  · exact .inl word
  · exact .inr (by decide)

private theorem negotiable_cases {bits : UInt8} (allowed : negotiable bits) :
    ∃ window ∈ [8, 9, 10, 11, 12, 13, 14, 15], bits = window := by
  simp only [negotiable, Bool.and_eq_true, decide_eq_true_eq, UInt8.le_iff_toNat_le] at allowed
  obtain ⟨low, high⟩ := allowed
  simp only [UInt8.reduceToNat] at low high
  refine ⟨bits, ?_, rfl⟩
  simp only [List.mem_cons, ← UInt8.toNat_inj, UInt8.reduceToNat, List.not_mem_nil, or_false]
  omega

/-- What is true of the eight windows is true of every window that may be named. -/
theorem negotiable_induction {motive : UInt8 → Prop} {bits : UInt8} (allowed : negotiable bits)
    (every : motive 8 ∧ motive 9 ∧ motive 10 ∧ motive 11 ∧ motive 12 ∧ motive 13 ∧ motive 14 ∧
      motive 15) : motive bits := by
  obtain ⟨window, member, rfl⟩ := negotiable_cases allowed
  simp only [List.mem_cons, List.not_mem_nil, or_false] at member
  grind

theorem decimal_digits {bits : UInt8} (allowed : negotiable bits) :
    decimal bits ≠ [] ∧ ∀ char ∈ decimal bits, char.isDigit := by
  have digits := negotiable_induction (motive := fun bits =>
    decimal bits ≠ [] ∧ (decimal bits).all Char.isDigit) allowed (by decide)
  exact ⟨digits.1, List.all_eq_true.mp digits.2⟩

theorem parseU8_decimal {bits : UInt8} (allowed : negotiable bits) :
    parseU8 (decimal bits) = some bits :=
  negotiable_induction (motive := fun bits => parseU8 (decimal bits) = some bits) allowed
    (by decide)

theorem windowBits_decimal {bits : UInt8} (allowed : negotiable bits) :
    Offer.windowBits (decimal bits) = some bits :=
  negotiable_induction (motive := fun bits => Offer.windowBits (decimal bits) = some bits) allowed
    (by decide)

end Scanning

namespace Part

/-- What follows a parameter: the end, or the next one's semicolon. -/
def Ends (rest : Text) : Prop := ∀ char ∈ rest.head?, char = ';'

theorem write_ends (parts : List Part) : Ends (parts.flatMap write) := by
  cases parts with
  | nil => simp [Ends]
  | cons part parts => simp [Ends, write]

private theorem dropSpace_word {word rest : Text} (named : word ≠ [])
    (solid : ∀ char ∈ word, isSpace char = false) :
    (word ++ rest).dropWhile isSpace = word ++ rest := by
  cases word with
  | nil => contradiction
  | cons char word => simp [solid char (by simp)]

theorem solid_key {char : Char} (key : isKeyChar char) : isSpace char = false := by
  simp only [isSpace, Bool.or_eq_false_iff, decide_eq_false_iff_not]
  constructor
  · rintro rfl
    simp [isKeyChar] at key
  · rintro rfl
    simp [isKeyChar] at key

theorem digit_key {char : Char} (digit : char.isDigit) : isKeyChar char := by
  simp [isKeyChar, Char.isAlphanum, digit]

private theorem ends_outside {class' : Char → Bool} {rest : Text} (ends : Ends rest)
    (outside : class' ';' = false) : ∀ char ∈ rest.head?, class' char = false := by
  intro char member
  rw [ends char member]
  exact outside

private theorem dropSpace_ends {rest : Text} (ends : Ends rest) : rest.dropWhile isSpace = rest := by
  cases rest with
  | nil => rfl
  | cons char rest =>
    rw [ends char rfl]
    rfl

end Part

namespace Offer

theorem token_word {word rest : Text} (named : word ≠ []) (inside : ∀ char ∈ word, isTchar char)
    (outside : ∀ char ∈ rest.head?, isTchar char = false) :
    token (word ++ rest) = some (word, rest) := by
  obtain ⟨taken, dropped⟩ := span_word inside outside
  simp [token, taken, dropped, named]

/-- One parameter is read off in front of whatever parameters follow. -/
theorem param_write {part : Part} (plain : part.Plain) {rest : Text} (ends : Part.Ends rest) :
    param ((part.write ++ rest).drop 1) = some (part.read, rest) := by
  obtain ⟨key, window⟩ := part
  have solid := fun char member => Part.solid_key (plain.word char member)
  have inside := fun char member => isTchar_of_isKeyChar (plain.word char member)
  have start : ∀ tail : Text, skipWhitespace (' ' :: (key ++ tail)) = key ++ tail := fun tail =>
    Part.dropSpace_word plain.named solid
  cases window with
  | none =>
    have read_key := token_word plain.named inside (Part.ends_outside ends (by decide))
    have behind : skipWhitespace rest = rest := Part.dropSpace_ends ends
    have bare : eat '=' rest = none := by
      cases rest with
      | nil => rfl
      | cons char rest =>
        rw [ends char rfl]
        rfl
    have written : (Part.write (key, none) ++ rest).drop 1 = ' ' :: (key ++ rest) := by
      simp [Part.write]
    simp [param, written, start, read_key, behind, bare, Part.read]
  | some bits =>
    obtain ⟨number, digits⟩ := decimal_digits (plain.window bits rfl)
    have read_key : token (key ++ '=' :: (decimal bits ++ rest)) =
        some (key, '=' :: (decimal bits ++ rest)) :=
      token_word plain.named inside (by rintro char ⟨⟩; decide)
    have tchars := fun char member => isTchar_of_isKeyChar (Part.digit_key (digits char member))
    have read_value := token_word number tchars (Part.ends_outside ends (by decide))
    have blank : skipWhitespace (decimal bits ++ rest) = decimal bits ++ rest :=
      Part.dropSpace_word number fun char member => Part.solid_key (Part.digit_key (digits char member))
    have unquoted : eat '"' (decimal bits ++ rest) = none := by
      cases shape : decimal bits with
      | nil => contradiction
      | cons first more =>
        have digit : first.isDigit := digits first (by simp [shape])
        have plainly : first ≠ '"' := by
          rintro rfl
          simp at digit
        simp [eat, plainly]
    have written : (Part.write (key, some bits) ++ rest).drop 1 =
        ' ' :: (key ++ '=' :: (decimal bits ++ rest)) := by
      simp [Part.write]
    have equals : eat '=' (skipWhitespace ('=' :: (decimal bits ++ rest))) =
        some (decimal bits ++ rest) := rfl
    simp [param, written, start, read_key, equals, blank, value, unquoted, read_value, Part.read]

private theorem params_write {parts : List Part} (plain : ∀ part ∈ parts, part.Plain) (fuel : Nat)
    (enough : parts.length < fuel) :
    params fuel (parts.flatMap Part.write) = some (parts.map Part.read, []) := by
  induction parts generalizing fuel with
  | nil =>
    cases fuel with
    | zero => contradiction
    | succ fuel => rfl
  | cons part parts ih =>
    cases fuel with
    | zero => contradiction
    | succ fuel =>
      have first := param_write (plain part (by simp)) (Part.write_ends parts)
      have rest := ih (fun part member => plain part (by simp [member])) fuel
        (by simpa using enough)
      have semicolon : eat ';' (skipWhitespace (part.write ++ parts.flatMap Part.write)) =
          some ((part.write ++ parts.flatMap Part.write).drop 1) := by
        simp only [Part.write, List.append_assoc]
        rfl
      simp only [List.flatMap_cons, params, semicolon, first, rest, Option.map_some, List.map_cons]

private theorem length_le_write (parts : List Part) :
    parts.length ≤ (parts.flatMap Part.write).length := by
  induction parts with
  | nil => exact Nat.le_refl _
  | cons part parts ih =>
    simp only [List.flatMap_cons, List.length_append, List.length_cons, Part.write,
      String.length_toList]
    have separator : 0 < "; ".length := by decide
    omega

/-- The strict reader takes what is written for one extension. -/
theorem parse_display (extensions : WebSocketExtensions) :
    parse extensions.display =
      some [⟨permessageDeflate, extensions.parts.map Part.read⟩] := by
  have plain := extensions.parts_plain
  rw [extensions.display_eq]
  generalize extensions.parts = parts at plain
  have start : ∀ tail, skipWhitespace (permessageDeflate ++ tail) = permessageDeflate ++ tail :=
    fun tail => Part.dropSpace_word (by decide) (every_char (by decide))
  have element : ∀ tail, eat ',' (permessageDeflate ++ tail) = none := fun tail => rfl
  have nonempty : ∀ tail, (permessageDeflate ++ tail).isEmpty = false := fun tail => rfl
  have name : token (permessageDeflate ++ parts.flatMap Part.write) =
      some (permessageDeflate, parts.flatMap Part.write) :=
    token_word (by decide) (every_char (by decide))
      (Part.ends_outside (Part.write_ends parts) (by decide))
  have rest := params_write plain ((parts.flatMap Part.write).length + 1)
    (Nat.lt_succ_of_le (length_le_write parts))
  have length : (permessageDeflate ++ parts.flatMap Part.write).length =
      (17 + (parts.flatMap Part.write).length) + 1 := by
    rw [List.length_append, show permessageDeflate.length = 18 by decide]
    omega
  simp only [parse, length, parseList, start, element, nonempty, name, rest]
  rfl

/-- What an offer says once its windows that may not be named are left open. -/
def heard (extensions : WebSocketExtensions) : WebSocketExtensions :=
  { extensions with
    serverMaxWindowBits := extensions.serverMaxWindowBits.map (Option.filter negotiable)
    clientMaxWindowBits := extensions.clientMaxWindowBits.map (Option.filter negotiable) }

private theorem windowPart_eq (key : Text) (window : Option (Option UInt8)) :
    WebSocketExtensions.windowPart key window =
      match window.map (Option.filter negotiable) with
      | some value => [(key, value)]
      | none => [] := by
  match window with
  | none => rfl
  | some none => rfl
  | some (some bits) =>
    by_cases named : negotiable bits <;> simp [WebSocketExtensions.windowPart, Option.filter, named]

/-- A written offer is declined exactly when its server window cannot be named. -/
theorem offer_display (extensions : WebSocketExtensions) :
    offer (extensions.parts.map Part.read) =
      match (heard extensions).serverMaxWindowBits with
      | some none => none
      | _ => some (heard extensions) := by
  obtain ⟨server, client, serverFlag, clientFlag⟩ := extensions
  have serverNamed : ∀ bits, server.map (Option.filter negotiable) = some (some bits) →
      windowBits (decimal bits) = some bits := by
    intro bits named
    obtain ⟨window, -, filtered⟩ := Option.map_eq_some_iff.mp named
    exact windowBits_decimal (Option.filter_eq_some_iff.mp filtered).2
  have clientNamed : ∀ bits, client.map (Option.filter negotiable) = some (some bits) →
      windowBits (decimal bits) = some bits := by
    intro bits named
    obtain ⟨window, -, filtered⟩ := Option.map_eq_some_iff.mp named
    exact windowBits_decimal (Option.filter_eq_some_iff.mp filtered).2
  simp only [WebSocketExtensions.parts, windowPart_eq, heard]
  generalize server.map (Option.filter negotiable) = server at *
  generalize client.map (Option.filter negotiable) = client at *
  rcases server with _ | _ | server <;> rcases client with _ | _ | client <;>
    cases serverFlag <;> cases clientFlag <;>
    simp_all [offer, readParams, readParam, WebSocketExtensions.flagPart, Part.read,
      WebSocketExtensions.default]

end Offer

namespace WebSocketExtensions

/-- The lenient reader takes the same parameter off. -/
theorem parseExtension_write {part : Part} (plain : part.Plain) {rest : Text}
    (ends : Part.Ends rest) : parseExtension (part.write ++ rest) = some (part.read, rest) := by
  obtain ⟨key, window⟩ := part
  have solid := fun char member => Part.solid_key (plain.word char member)
  have start : ∀ tail : Text, (' ' :: (key ++ tail)).dropWhile isSpace = key ++ tail := fun tail =>
    Part.dropSpace_word plain.named solid
  have semicolon : ∀ tail : Text, tag [';'] ((';' :: tail).dropWhile isSpace) = some tail :=
    fun tail => by simp [tag, isSpace]
  cases window with
  | none =>
    obtain ⟨word, behind⟩ := span_word plain.word (Part.ends_outside ends (by decide))
    have bare : tag ['='] (rest.dropWhile isSpace) = none := by
      rw [Part.dropSpace_ends ends]
      cases rest with
      | nil => rfl
      | cons char rest =>
        rw [ends char rfl]
        rfl
    have written : Part.write (key, none) ++ rest = ';' :: ' ' :: (key ++ rest) := by
      simp [Part.write]
    simp [parseExtension, written, semicolon, start, word, behind, bare, plain.named, Part.read]
  | some bits =>
    obtain ⟨number, digits⟩ := decimal_digits (plain.window bits rfl)
    have stops : ∀ char ∈ ('=' :: (decimal bits ++ rest)).head?, isKeyChar char = false := by
      rintro char ⟨⟩
      decide
    obtain ⟨word, behind⟩ := span_word plain.word stops
    obtain ⟨value, tail⟩ := span_word digits (Part.ends_outside ends (by decide))
    have equals : tag ['='] (('=' :: (decimal bits ++ rest)).dropWhile isSpace) =
        some (decimal bits ++ rest) := by
      simp [tag, isSpace]
    have blank : (decimal bits ++ rest).dropWhile isSpace = decimal bits ++ rest :=
      Part.dropSpace_word number fun char member => Part.solid_key (Part.digit_key (digits char member))
    have written : Part.write (key, some bits) ++ rest =
        ';' :: ' ' :: (key ++ '=' :: (decimal bits ++ rest)) := by
      simp [Part.write]
    simp [parseExtension, written, semicolon, start, word, behind, equals, blank, value, tail,
      number, plain.named, Part.read]

private theorem parseExtensions_write {parts : List Part} (plain : ∀ part ∈ parts, part.Plain)
    (fuel : Nat) (enough : parts.length < fuel) (self : WebSocketExtensions) :
    parseExtensions fuel self (parts.flatMap Part.write) =
      some (parts.foldl (fun self part => self.setParameter part.read.1 part.read.2) self) := by
  induction parts generalizing fuel self with
  | nil =>
    cases fuel with
    | zero => contradiction
    | succ fuel => rfl
  | cons part parts ih =>
    cases fuel with
    | zero => contradiction
    | succ fuel =>
      have first := parseExtension_write (plain part (by simp)) (Part.write_ends parts)
      have rest := ih (fun part member => plain part (by simp [member])) fuel
        (by simpa using enough)
      have nonempty : (part.write ++ parts.flatMap Part.write).isEmpty = false := by
        simp [Part.write]
      simp only [List.flatMap_cons, parseExtensions, nonempty, first, rest, List.foldl_cons,
        Bool.false_eq_true, ↓reduceIte]

/-- A window that is there is named with a value a header allows. -/
def NamedWindow (window : Option (Option UInt8)) : Prop :=
  ∀ value, window = some value → ∃ bits, value = some bits ∧ negotiable bits

/-- Every window the parameters mention has a value. -/
structure Named (extensions : WebSocketExtensions) : Prop where
  server : NamedWindow extensions.serverMaxWindowBits
  client : NamedWindow extensions.clientMaxWindowBits

private theorem windowPart_named {window : Option (Option UInt8)} (named : NamedWindow window)
    (key : Text) : windowPart key window = window.toList.map fun value => (key, value) := by
  cases window with
  | none => rfl
  | some value =>
    obtain ⟨bits, rfl, allowed⟩ := named value rfl
    simp [windowPart, allowed]

private theorem parseU8_named {window : Option (Option UInt8)} (named : NamedWindow window)
    {value : Option UInt8} (present : window = some value) :
    (value.map decimal).bind parseU8 = value := by
  obtain ⟨bits, rfl, allowed⟩ := named value present
  exact parseU8_decimal allowed

/-- The lenient reader gets back the parameters that were written. -/
theorem fromStr_display {self : WebSocketExtensions} (named : self.Named) :
    fromStr self.display = some self := by
  have split : tag permessageDeflate self.display = some (self.parts.flatMap Part.write) := by
    rw [display_eq, tag, if_pos (by simp [List.isPrefixOf_iff_prefix]), List.drop_left]
  have read := parseExtensions_write self.parts_plain ((self.parts.flatMap Part.write).length + 1)
    (Nat.lt_succ_of_le (Offer.length_le_write self.parts)) default
  simp only [fromStr, split, read, Option.some.injEq]
  clear split read
  simp only [parts, windowPart_named named.server, windowPart_named named.client]
  have serverRead := @parseU8_named _ named.server
  have clientRead := @parseU8_named _ named.client
  obtain ⟨server, client, serverFlag, clientFlag⟩ := self
  cases server <;> cases client <;> cases serverFlag <;> cases clientFlag <;>
    simp_all [setParameter, flagPart, Part.read, default]

end WebSocketExtensions

namespace Offer

/-- What the strict reader lets through: windows in the range a header may name,
and the server's window only with a value. -/
structure Read (offer : WebSocketExtensions) : Prop where
  server : WebSocketExtensions.NamedWindow offer.serverMaxWindowBits
  client : ∀ bits, offer.clientMaxWindowBits = some (some bits) → negotiable bits

private theorem windowBits_negotiable {value : Text} {bits : UInt8}
    (found : windowBits value = some bits) : negotiable bits := by
  unfold windowBits at found
  split at found
  · split at found
    · rename_i fine
      obtain rfl := Option.some.inj found
      exact fine.1
    · simp at found
  · simp at found

private theorem readParam_read {start result : WebSocketExtensions} {name : Text}
    {value : Option Text} (read : Read start) (done : readParam start name value = some result) :
    Read result := by
  unfold readParam at done
  split at done
  · obtain rfl := Option.some.inj done
    exact ⟨read.server, read.client⟩
  · split at done
    · obtain rfl := Option.some.inj done
      exact ⟨read.server, read.client⟩
    · split at done
      · cases value with
        | none => simp at done
        | some text =>
          obtain ⟨bits, found, rfl⟩ := Option.map_eq_some_iff.mp done
          refine ⟨?_, read.client⟩
          rintro value ⟨⟩
          exact ⟨bits, rfl, windowBits_negotiable found⟩
      · split at done
        · cases value with
          | none =>
            obtain rfl := Option.some.inj done
            exact ⟨read.server, nofun⟩
          | some text =>
            obtain ⟨bits, found, rfl⟩ := Option.map_eq_some_iff.mp done
            refine ⟨read.server, ?_⟩
            rintro value ⟨⟩
            exact windowBits_negotiable found
        · simp at done

private theorem readParams_read {params : List (Text × Option Text)} {earlier : List Text}
    {start result : WebSocketExtensions} (read : Read start)
    (done : readParams earlier start params = some result) : Read result := by
  induction params generalizing earlier start with
  | nil =>
    obtain rfl := Option.some.inj done
    exact read
  | cons param params ih =>
    simp only [readParams] at done
    split at done
    · simp at done
    · split at done
      · simp at done
      · rename_i next step
        exact ih (readParam_read read step) done

theorem offer_read {params : List (Text × Option Text)} {said : WebSocketExtensions}
    (found : offer params = some said) : Read said := by
  refine readParams_read ⟨?_, ?_⟩ found
  · rintro value ⟨⟩
  · rintro bits ⟨⟩

private theorem offers_read {lines : List (Option Text)} {offer : WebSocketExtensions}
    (member : offer ∈ offers lines) : Read offer := by
  unfold offers at member
  split at member
  · simp at member
  · obtain ⟨extension, -, found⟩ := List.mem_filterMap.mp member
    exact offer_read found

end Offer

private theorem negotiable_mergeWindow {offered preference : Option UInt8}
    (named : ∀ bits, offered = some bits → negotiable bits)
    (preferred : ∀ bits, preference = some bits → negotiable bits) :
    negotiable (mergeWindow offered preference) := by
  cases offered with
  | none =>
    cases preference with
    | none => decide
    | some server => exact preferred server rfl
  | some client =>
    cases preference with
    | none => exact named client rfl
    | some server =>
      simp only [mergeWindow, Std.min_eq_if]
      split
      · exact named client rfl
      · exact preferred server rfl

private theorem negotiable_clampNegotiable (bits : UInt8) : negotiable (clampNegotiable bits) := by
  unfold clampNegotiable
  split
  · decide
  · split
    · decide
    · simp_all [negotiable, UInt8.not_lt]

private theorem negotiable_clampWindow (bits : UInt8) : negotiable (clampWindow bits) := by
  unfold clampWindow
  split
  · decide
  · split
    · decide
    · rename_i low high
      simp only [negotiable, Bool.and_eq_true, decide_eq_true_eq]
      exact ⟨Nat.le_trans (by decide) (UInt8.not_lt.mp low), UInt8.not_lt.mp high⟩

/-- A server answers only with windows that may be named. -/
theorem DeflateOptions.merge_named (backend : Backend) (server : DeflateOptions)
    {offered : WebSocketExtensions} (read : Offer.Read offered) :
    (server.merge backend offered).Named := by
  cases backend with
  | miniz => exact ⟨read.server, nofun⟩
  | zlib =>
    constructor
    · simp only [merge]
      split
      · rename_i window present
        rintro value ⟨⟩
        refine ⟨_, rfl, negotiable_mergeWindow ?_ ?_⟩
        · rintro bits rfl
          obtain ⟨_, same, allowed⟩ := read.server _ present
          exact Option.some.inj same ▸ allowed
        · intro bits preferred
          obtain ⟨preference, -, rfl⟩ := Option.map_eq_some_iff.mp preferred
          exact negotiable_clampWindow preference
      · intro value preferred
        obtain ⟨bits, clamped, rfl⟩ := Option.map_eq_some_iff.mp preferred
        obtain ⟨preference, -, rfl⟩ := Option.map_eq_some_iff.mp clamped
        exact ⟨_, rfl, negotiable_clampWindow preference⟩
    · simp only [merge]
      split
      · rename_i window present
        rintro value ⟨⟩
        refine ⟨_, rfl, negotiable_mergeWindow ?_ ?_⟩
        · rintro bits rfl
          exact read.client bits present
        · intro bits preferred
          obtain ⟨preference, -, rfl⟩ := Option.map_eq_some_iff.mp preferred
          exact negotiable_clampNegotiable preference
      · nofun

theorem WebSocketExtensions.agree_named {backend : Backend} {server : Option DeflateOptions}
    {lines : List (Option Text)} {answer : WebSocketExtensions}
    (agreed : agree backend server (Offer.offers lines) = some answer) : answer.Named := by
  unfold agree at agreed
  split at agreed
  · simp at agreed
  · obtain ⟨offer, found, rfl⟩ := Option.map_eq_some_iff.mp agreed
    exact DeflateOptions.merge_named backend _ (Offer.offers_read (List.mem_of_find?_eq_some found))

end Yawc
