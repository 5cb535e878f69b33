import Yawc.Library.Utf8
import Yawc.Compression.Grammar

/-! The strict reader over the bytes of a header value. It cuts the value at byte
offsets, which panics inside a character, and its loops have no bound of their
own. -/

namespace Yawc.Offer.Input

/-- How far a call has come. A refusal is the answer of every caller. -/
inductive Ran (α : Type) where
  | panicked
  | looping
  | refused
  | done (result : α)
  deriving DecidableEq

namespace Ran

protected def bind {α β : Type} (call : Ran α) (next : α → Ran β) : Ran β :=
  match call with
  | panicked => panicked
  | looping => looping
  | refused => refused
  | done result => next result

instance : Monad Ran where
  pure := done
  bind := Ran.bind

/-- A call that returned. -/
def returned {α : Type} : Option α → Ran α
  | none => refused
  | some result => done result

@[simp] theorem done_bind {α β : Type} (result : α) (next : α → Ran β) :
    (done result >>= next) = next result := rfl

@[simp] theorem refused_bind {α β : Type} (next : α → Ran β) :
    (refused >>= next) = refused := rfl

@[simp] theorem pure_eq {α : Type} (result : α) : (pure result : Ran α) = done result := rfl

end Ran

def isAsciiAlphanumeric (byte : UInt8) : Bool :=
  (48 ≤ byte.toNat && byte.toNat ≤ 57) || (65 ≤ byte.toNat && byte.toNat ≤ 90) ||
    (97 ≤ byte.toNat && byte.toNat ≤ 122)

/-- Whether the byte may appear in a token. -/
def isTchar (byte : UInt8) : Bool :=
  isAsciiAlphanumeric byte || ("!#$%&'*+-.^_`|~".toList.map Char.toUInt8).contains byte

/-- The input cut at a byte offset. -/
def cut (offset : Nat) (input : Text) : Ran (Text × Text) :=
  match Utf8.splitAt offset input with
  | none => .panicked
  | some parts => .done parts

/-- Consumes the byte if the input starts with it. -/
def eat (byte : UInt8) (input : Text) : Ran (Bool × Text) :=
  if (Utf8.bytes input).head? = some byte then do
    let (_, rest) ← cut 1 input
    return (true, rest)
  else return (false, input)

def token (input : Text) : Ran (Text × Text) :=
  let len := ((Utf8.bytes input).takeWhile isTchar).length
  if len = 0 then .refused else cut len input

/-- The loop over the characters of a quoted string, with the text read so far
and the offset of the next character in `rest`. -/
def quoted (rest : Text) (index : Nat) (value : Text) : Text → Ran (Text × Text)
  | [] => .refused
  | '"' :: _ => do
    let (_, input) ← cut (index + 1) rest
    if ¬ value.isEmpty ∧ (Utf8.bytes value).all isTchar then return (value, input) else .refused
  | '\\' :: char :: chars => quoted rest (index + 1 + char.utf8Size) (value ++ [char]) chars
  | ['\\'] => .refused
  | char :: chars => quoted rest (index + char.utf8Size) (value ++ [char]) chars

def value (input : Text) : Ran (Text × Text) := do
  let (found, input) ← eat '"'.toUInt8 input
  if found then quoted input 0 [] input else token input

/-- One parameter, behind its semicolon. -/
def param (input : Text) : Ran ((Text × Option Text) × Text) := do
  let (key, input) ← token (skipWhitespace input)
  let (found, input) ← eat '='.toUInt8 (skipWhitespace input)
  if found then
    let (value, input) ← value (skipWhitespace input)
    return ((key, some value), input)
  else return ((key, none), input)

/-- The loop over the parameters of one extension. -/
def params : Nat → Text → Ran (List (Text × Option Text) × Text)
  | 0, _ => .looping
  | rounds + 1, input => do
    let (found, input) ← eat ';'.toUInt8 (skipWhitespace input)
    if found then
      let (param, input) ← param input
      let (params, input) ← params rounds input
      return (param :: params, input)
    else return ([], input)

/-- The loop over the extensions. -/
def extensions : Nat → Text → Ran (List Extension)
  | 0, _ => .looping
  | rounds + 1, input => do
    let (found, input) ← eat ','.toUInt8 (skipWhitespace input)
    if found then extensions rounds input
    else if input.isEmpty then return []
    else
      let (name, input) ← token input
      let (params, input) ← params (rounds + 1) input
      if input.isEmpty then
        let extensions ← extensions rounds input
        return { name, params } :: extensions
      else
        let (found, input) ← eat ','.toUInt8 input
        if found then
          let extensions ← extensions rounds input
          return { name, params } :: extensions
        else .refused

/-- The reader with at most that many rounds of each of its loops. -/
def parse (rounds : Nat) (value : Text) : Ran (List Extension) := extensions rounds value

section Scanning

/-- The characters of a token besides letters and digits. -/
theorem marks_ascii : ∀ mark ∈ "!#$%&'*+-.^_`|~".toList, mark.toNat < 128 := by simp

private theorem isTchar_ascii {char : Char} (ascii : char.toNat < 128) :
    isTchar char.toUInt8 = Yawc.isTchar char := by
  have all : ∀ code < 128, isTchar (Char.ofNat code).toUInt8 = Yawc.isTchar (Char.ofNat code) := by
    decide +kernel
  have one := all char.toNat ascii
  rwa [Char.ofNat_toNat] at one

private theorem isTchar_high {byte : UInt8} (high : 128 ≤ byte.toNat) : isTchar byte = false := by
  by_contra found
  simp only [isTchar, isAsciiAlphanumeric, Bool.not_eq_false, Bool.or_eq_true, Bool.and_eq_true,
    decide_eq_true_eq, List.contains_iff_mem] at found
  rcases found with letter | mark
  · omega
  · obtain ⟨char, member, rfl⟩ := List.mem_map.mp mark
    have ascii := marks_ascii char member
    rw [Utf8.toNat_toUInt8 ascii] at high
    omega

private theorem isTchar_outside {char : Char} (large : 128 ≤ char.toNat) : Yawc.isTchar char =
    false := by
  by_contra found
  simp only [Yawc.isTchar, Char.isAlphanum, Char.isAlpha, Char.isUpper, Char.isLower,
    Char.isDigit, Bool.not_eq_false, Bool.or_eq_true, Bool.and_eq_true, decide_eq_true_eq,
    List.contains_iff_mem, ge_iff_le, UInt32.le_iff_toNat_le] at found
  have code : char.val.toNat = char.toNat := rfl
  rcases found with letter | mark
  · simp at letter
    omega
  · have := marks_ascii char mark
    omega

theorem tchar_class : Utf8.Class isTchar Yawc.isTchar :=
  ⟨fun _ => isTchar_ascii, fun _ => isTchar_high, fun _ => isTchar_outside⟩

theorem eat_char {char : Char} (ascii : char.toNat < 128) (input : Text) :
    eat char.toUInt8 input =
      .done (match Offer.eat char input with
        | some rest => (true, rest)
        | none => (false, input)) := by
  unfold eat
  by_cases found : input.head? = some char
  · obtain ⟨rest, rfl⟩ : ∃ rest, input = char :: rest := by
      cases input with
      | nil => simp at found
      | cons first rest => exact ⟨rest, by simpa using found⟩
    have whole : Utf8.splitAt 1 (char :: rest) = some ([char], rest) := by
      have cut := Utf8.splitAt_size [char] rest
      simpa [Utf8.size_cons, Utf8.utf8Size_ascii ascii] using cut
    simp [(Utf8.head?_bytes ascii (char :: rest)).mpr found, cut, whole, eat_cons]
  · have missing : Offer.eat char input = none := by
      apply eat_none
      rintro rest rfl
      simp at found
    have other : ¬ (Utf8.bytes input).head? = some char.toUInt8 := by
      rw [Utf8.head?_bytes ascii]
      exact found
    simp [other, missing]

theorem token_returned (input : Text) : token input = .returned (Offer.token input) := by
  have split : input.takeWhile Yawc.isTchar ++ input.dropWhile Yawc.isTchar = input :=
    List.takeWhile_append_dropWhile
  have whole := Utf8.splitAt_size (input.takeWhile Yawc.isTchar) (input.dropWhile Yawc.isTchar)
  rw [split] at whole
  simp only [token, Offer.token, tchar_class.takeWhile]
  by_cases empty : input.takeWhile Yawc.isTchar = []
  · simp [empty, Ran.returned]
  · have some' : Utf8.size (input.takeWhile Yawc.isTchar) ≠ 0 := by
      intro zero
      cases word : input.takeWhile Yawc.isTchar with
      | nil => exact empty word
      | cons char word' =>
        have := char.utf8Size_pos
        rw [word, Utf8.size_cons] at zero
        omega
    simp [some', cut, whole, empty, Ran.returned]

/-- The characters before the closing quote are whole, so the cut behind it is on
a boundary. -/
theorem cut_quote (front chars : Text) :
    cut (Utf8.size front + 1) (front ++ '"' :: chars) = .done (front ++ ['"'], chars) := by
  have whole := Utf8.splitAt_size (front ++ ['"']) chars
  have behind : Utf8.size (front ++ ['"']) = Utf8.size front + 1 := Utf8.size_append ..
  rw [behind, List.append_assoc, List.singleton_append] at whole
  simp only [cut, whole]

private theorem quoted_returned (front chars value : Text) :
    quoted (front ++ chars) (Utf8.size front) value chars =
      .returned (Offer.quoted value chars) := by
  fun_induction Offer.quoted value chars generalizing front with
  | case1 => rfl
  | case2 value chars token =>
    rw [← tchar_class.all] at token
    simp only [quoted, cut_quote, Ran.done_bind, if_pos token]
    rfl
  | case3 value chars other =>
    rw [← tchar_class.all] at other
    simp only [quoted, cut_quote, Ran.done_bind, if_neg other]
    rfl
  | case4 value char chars ih =>
    have behind : Utf8.size (front ++ ['\\', char]) = Utf8.size front + 1 + char.utf8Size := by
      have escape : '\\'.utf8Size = 1 := rfl
      rw [Utf8.size_append, Utf8.size_cons, Utf8.size_cons, Utf8.size_nil, escape]
      omega
    have step := ih (front ++ ['\\', char])
    rw [behind, List.append_assoc] at step
    rw [quoted]
    exact step
  | case5 => rfl
  | case6 value char chars noQuote noEscape noEnd ih =>
    have behind : Utf8.size (front ++ [char]) = Utf8.size front + char.utf8Size := by
      rw [Utf8.size_append, Utf8.size_cons, Utf8.size_nil]
      omega
    have step := ih (front ++ [char])
    rw [behind, List.append_assoc] at step
    rw [quoted]
    · exact step
    · exact noQuote
    · exact noEscape
    · exact noEnd

private theorem value_returned (input : Text) : value input = .returned (Offer.value input) := by
  unfold value Offer.value
  rw [eat_char (by decide)]
  cases Offer.eat '"' input with
  | some rest => exact quoted_returned [] rest []
  | none => exact token_returned input

private theorem param_returned (input : Text) : param input = .returned (Offer.param input) := by
  unfold param Offer.param
  rw [token_returned]
  cases Offer.token (skipWhitespace input) with
  | none => rfl
  | some found =>
    obtain ⟨key, behind⟩ := found
    have equals := eat_char (show '='.toNat < 128 by decide) (skipWhitespace behind)
    simp only [Ran.returned, Ran.done_bind, equals]
    cases Offer.eat '=' (skipWhitespace behind) with
    | none => rfl
    | some assigned =>
      simp only [↓reduceIte, value_returned]
      cases Offer.value (skipWhitespace assigned) <;> rfl

end Scanning

section Loops

/-- Every round takes a semicolon, so the loop ends before the input does. -/
theorem params_returned {input : Text} {rounds fuel : Nat} (rounds' : input.length < rounds)
    (fuel' : input.length < fuel) :
    params rounds input = .returned (Offer.params fuel input) := by
  induction rounds generalizing input fuel with
  | zero => contradiction
  | succ rounds ih =>
    obtain ⟨fuel, rfl⟩ := Nat.exists_eq_add_one.mpr (Nat.zero_lt_of_lt fuel')
    obtain ⟨blank, _, split⟩ := skipWhitespace_split input
    rw [params, Offer.params, eat_char (by decide)]
    cases semicolon : Offer.eat ';' (skipWhitespace input) with
    | none => rfl
    | some behind =>
      simp only [Ran.done_bind, ↓reduceIte, param_returned]
      cases one : Offer.param behind with
      | none => rfl
      | some found =>
        obtain ⟨param, rest⟩ := found
        obtain ⟨before, written, after, _, _, _, rebuilt⟩ := param_sound one
        have shorter : rest.length < input.length := by
          rw [split, eat_some_iff.mp semicolon, rebuilt]
          simp only [List.length_append, List.length_cons]
          omega
        simp only [Ran.returned, Ran.done_bind,
          ih (show rest.length < rounds by omega) (show rest.length < fuel by omega)]
        cases Offer.params fuel rest <;> rfl

/-- Every round takes a comma or a name, so this loop ends before the input does
as well. -/
theorem extensions_returned {input : Text} {rounds fuel : Nat} (rounds' : input.length < rounds)
    (fuel' : input.length < fuel) :
    extensions rounds input = .returned (Offer.parseList fuel input) := by
  induction rounds generalizing input fuel with
  | zero => contradiction
  | succ rounds ih =>
    obtain ⟨fuel, rfl⟩ := Nat.exists_eq_add_one.mpr (Nat.zero_lt_of_lt fuel')
    obtain ⟨blank, _, split⟩ := skipWhitespace_split input
    have shorter : (skipWhitespace input).length ≤ input.length := by
      rw [congrArg List.length split]
      simp
    rw [extensions, Offer.parseList, eat_char (by decide)]
    cases comma : Offer.eat ',' (skipWhitespace input) with
    | some rest =>
      have taken := congrArg List.length (eat_some_iff.mp comma)
      rw [List.length_cons] at taken
      exact ih (by omega) (by omega)
    | none =>
      simp only [Ran.done_bind, Bool.false_eq_true, ↓reduceIte]
      by_cases empty : (skipWhitespace input).isEmpty
      · simp [empty, Ran.returned]
      · simp only [empty, Bool.false_eq_true, ↓reduceIte, token_returned]
        cases word : Offer.token (skipWhitespace input) with
        | none => rfl
        | some found =>
          obtain ⟨name, behind⟩ := found
          obtain ⟨token, rebuilt⟩ := token_sound word
          have named := List.length_pos_iff.mpr token.named
          have taken := congrArg List.length rebuilt
          rw [List.length_append] at taken
          simp only [Ran.returned, Ran.done_bind,
            params_returned (show behind.length < rounds + 1 by omega) (Nat.lt_succ_self _)]
          cases read : Offer.params (behind.length + 1) behind with
          | none => rfl
          | some found =>
            obtain ⟨params, rest⟩ := found
            obtain ⟨written, _, split'⟩ := params_sound read
            have taken' := congrArg List.length split'
            rw [List.length_append] at taken'
            simp only [Ran.done_bind]
            by_cases ended : rest.isEmpty
            · simp only [ended, ↓reduceIte,
                ih (show rest.length < rounds by omega) (show rest.length < fuel by omega)]
              cases Offer.parseList fuel rest <;> rfl
            · have next := eat_char (show ','.toNat < 128 by decide) rest
              simp only [ended, Bool.false_eq_true, ↓reduceIte, next]
              cases comma' : Offer.eat ',' rest with
              | none => rfl
              | some after =>
                have taken'' := congrArg List.length (eat_some_iff.mp comma')
                rw [List.length_cons] at taken''
                simp only [Ran.done_bind, ↓reduceIte,
                  ih (show after.length < rounds by omega) (show after.length < fuel by omega)]
                cases Offer.parseList fuel after <;> rfl

/-- The reader returns on every value, without a panic, and returns the extensions
that the value lists if it follows the grammar and nothing otherwise. -/
theorem parse_derives (value : Text) :
    ∃ result : Option (List Extension),
      (∀ more, parse (value.length + 1 + more) value = .returned result) ∧
        ∀ extensions, result = some extensions ↔ Line value extensions := by
  refine ⟨Offer.parse value, ?_, ?_⟩
  · intro more
    exact extensions_returned (by omega) (Nat.lt_succ_self _)
  · intro extensions
    exact parse_eq_some_iff

end Loops

end Yawc.Offer.Input
