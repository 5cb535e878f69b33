import Yawc.Compression.Wire

/-! The grammar of an extension list, and that the strict reader accepts exactly
what follows it. -/

namespace Yawc.Offer

/-- Optional whitespace. -/
def Blank (text : Text) : Prop := ∀ char ∈ text, isSpace char

structure Token (text : Text) : Prop where
  named : text ≠ []
  tchars : ∀ char ∈ text, isTchar char

/-- The inside of a quoted string and what it says, which may only hold token
characters, each of them escaped or not. -/
inductive Spelled : Text → Text → Prop where
  | nil : Spelled [] []
  | plain {char : Char} {written text : Text} (tchar : isTchar char)
      (more : Spelled written text) : Spelled (char :: written) (char :: text)
  | escaped {char : Char} {written text : Text} (tchar : isTchar char)
      (more : Spelled written text) : Spelled ('\\' :: char :: written) (char :: text)

/-- A parameter's value as it is written and what it says. -/
inductive Value : Text → Text → Prop where
  | token {text : Text} (token : Token text) : Value text text
  | quoted {written text : Text} (named : text ≠ []) (spelled : Spelled written text) :
      Value ('"' :: (written ++ ['"'])) text

inductive Param : Text → Text × Option Text → Prop where
  | bare {key : Text} (token : Token key) : Param key (key, none)
  | valued {key before behind written text : Text} (token : Token key) (blank : Blank before)
      (blank' : Blank behind) (value : Value written text) :
      Param (key ++ (before ++ '=' :: (behind ++ written))) (key, some text)

/-- The parameters of an extension, each behind a semicolon. -/
inductive Params : Text → List (Text × Option Text) → Prop where
  | nil {blank : Text} (blank' : Blank blank) : Params blank []
  | cons {before behind written rest : Text} {param : Text × Option Text}
      {params : List (Text × Option Text)} (blank : Blank before) (blank' : Blank behind)
      (first : Param written param) (more : Params rest params) :
      Params (before ++ ';' :: (behind ++ (written ++ rest))) (param :: params)

/-- One element of the list, which may be empty. -/
inductive Element : Text → List Extension → Prop where
  | empty {blank : Text} (blank' : Blank blank) : Element blank []
  | extension {blank name written : Text} {params : List (Text × Option Text)}
      (blank' : Blank blank) (token : Token name) (more : Params written params) :
      Element (blank ++ (name ++ written)) [{ name, params }]

/-- A header line: elements with commas between them. -/
inductive Line : Text → List Extension → Prop where
  | last {text : Text} {extensions : List Extension} (element : Element text extensions) :
      Line text extensions
  | more {text rest : Text} {first others : List Extension} (element : Element text first)
      (line : Line rest others) : Line (text ++ ',' :: rest) (first ++ others)

section Scanning

theorem skipWhitespace_split (input : Text) :
    ∃ blank, Blank blank ∧ input = blank ++ skipWhitespace input := by
  refine ⟨input.takeWhile isSpace, ?_, List.takeWhile_append_dropWhile.symm⟩
  intro char member
  exact List.all_eq_true.mp List.all_takeWhile char member

/-- The first character is none of a class. -/
def Stops (class' : Char → Bool) (rest : Text) : Prop :=
  ∀ char ∈ rest.head?, class' char = false

theorem skipWhitespace_blank {blank rest : Text} (blank' : Blank blank)
    (stops : Stops isSpace rest) : skipWhitespace (blank ++ rest) = rest := by
  rw [skipWhitespace, List.dropWhile_append_of_pos blank']
  cases rest with
  | nil => rfl
  | cons char rest => simp [stops char rfl]

theorem eat_some_iff {char : Char} {input rest : Text} :
    eat char input = some rest ↔ input = char :: rest := by
  cases input with
  | nil => simp [eat]
  | cons first more =>
    by_cases same : first = char
    · simp [eat, same]
    · simp [eat, same]

theorem eat_cons (char : Char) (rest : Text) : eat char (char :: rest) = some rest :=
  eat_some_iff.mpr rfl

theorem eat_none {char : Char} {input : Text} (other : ∀ rest, input ≠ char :: rest) :
    eat char input = none := by
  cases taken : eat char input with
  | none => rfl
  | some rest => exact absurd (eat_some_iff.mp taken) (other rest)

theorem token_sound {input word rest : Text} (read : token input = some (word, rest)) :
    Token word ∧ input = word ++ rest := by
  simp only [token] at read
  split at read
  · simp at read
  · rename_i named
    simp only [Option.some.injEq, Prod.mk.injEq] at read
    obtain ⟨rfl, rfl⟩ := read
    refine ⟨⟨by simpa using named, ?_⟩, List.takeWhile_append_dropWhile.symm⟩
    intro char member
    exact List.all_eq_true.mp List.all_takeWhile char member

theorem token_complete {word rest : Text} (read : Token word) (stops : Stops isTchar rest) :
    token (word ++ rest) = some (word, rest) :=
  token_word read.named read.tchars stops

end Scanning

section Values

/-- The characters read before are in front of what the rest of the string says. -/
theorem quoted_sound {front input text rest : Text}
    (read : quoted front input = some (text, rest)) :
    Token text ∧ ∃ written more, Spelled written more ∧ text = front ++ more ∧
      input = written ++ '"' :: rest := by
  fun_induction quoted front input with
  | case1 => simp at read
  | case2 front rest' token =>
    simp only [Option.some.injEq, Prod.mk.injEq] at read
    obtain ⟨rfl, rfl⟩ := read
    exact ⟨⟨by simpa using token.1, by simpa using token.2⟩, [], [], .nil, by simp, rfl⟩
  | case3 => simp at read
  | case4 front char rest' ih =>
    obtain ⟨token, written, more, spelled, rfl, rfl⟩ := ih read
    exact ⟨token, '\\' :: char :: written, char :: more,
      .escaped (token.tchars char (by simp)) spelled, by simp, rfl⟩
  | case5 => simp at read
  | case6 front char rest' _ _ _ ih =>
    obtain ⟨token, written, more, spelled, rfl, rfl⟩ := ih read
    exact ⟨token, char :: written, char :: more, .plain (token.tchars char (by simp)) spelled,
      by simp, rfl⟩

private theorem Spelled.tchars {written text : Text} (spelled : Spelled written text) :
    ∀ char ∈ text, isTchar char := by
  induction spelled with
  | nil => simp
  | plain tchar _ ih => simpa using ⟨tchar, ih⟩
  | escaped tchar _ ih => simpa using ⟨tchar, ih⟩

private theorem quoted_complete {written more : Text} (spelled : Spelled written more)
    (front rest : Text)
    (token : Token (front ++ more)) :
    quoted front (written ++ '"' :: rest) = some (front ++ more, rest) := by
  induction spelled generalizing front with
  | nil =>
    rw [List.append_nil] at token ⊢
    have all : front.all isTchar := by simpa using token.tchars
    simp [quoted, token.named, all]
  | @plain char written more tchar _ ih =>
    have noQuote : char ≠ '"' := by
      rintro rfl
      exact absurd tchar (by decide)
    have noEscape : char ≠ '\\' := by
      rintro rfl
      exact absurd tchar (by decide)
    have step := ih (front ++ [char]) (by simpa using token)
    rw [List.cons_append, quoted]
    · simpa using step
    · exact noQuote
    · intro _ _ same
      exact absurd same noEscape
    · intro same
      exact absurd same noEscape
  | @escaped char written more _ _ ih =>
    have step := ih (front ++ [char]) (by simpa using token)
    rw [List.cons_append, List.cons_append, quoted]
    simpa using step

private theorem value_sound {input text rest : Text} (read : value input = some (text, rest)) :
    ∃ written, Value written text ∧ input = written ++ rest := by
  unfold value at read
  cases open' : eat '"' input with
  | some inside =>
    rw [open'] at read
    obtain ⟨token, written, more, spelled, rfl, rfl⟩ := quoted_sound read
    refine ⟨_, .quoted token.named spelled, ?_⟩
    rw [eat_some_iff.mp open']
    simp
  | none =>
    rw [open'] at read
    obtain ⟨token, rfl⟩ := token_sound read
    exact ⟨text, .token token, rfl⟩

private theorem value_complete {written text rest : Text} (said : Value written text)
    (stops : Stops isTchar rest) : value (written ++ rest) = some (text, rest) := by
  cases said with
  | token token =>
    have unquoted : eat '"' (written ++ rest) = none := by
      obtain ⟨named, tchars⟩ := token
      cases written with
      | nil => contradiction
      | cons char word =>
        apply eat_none
        rintro after same
        simp only [List.cons_append, List.cons.injEq] at same
        exact absurd (same.1 ▸ tchars char (by simp)) (by decide)
    simp only [value, unquoted]
    exact token_complete token stops
  | quoted named spelled =>
    have read := quoted_complete spelled [] rest ⟨named, spelled.tchars⟩
    simpa [value, eat] using read

end Values

section Parameters

theorem param_sound {input rest : Text} {read : Text × Option Text}
    (done : param input = some (read, rest)) :
    ∃ before written behind, Blank before ∧ Param written read ∧ Blank behind ∧
      input = before ++ (written ++ (behind ++ rest)) := by
  obtain ⟨before, blank, split⟩ := skipWhitespace_split input
  unfold param at done
  cases word : token (skipWhitespace input) with
  | none => simp [word] at done
  | some found =>
    obtain ⟨key, behind⟩ := found
    simp only [word] at done
    obtain ⟨token, rebuilt⟩ := token_sound word
    obtain ⟨gap, blank', gapped⟩ := skipWhitespace_split behind
    rw [rebuilt] at split
    rw [gapped] at split
    cases equals : eat '=' (skipWhitespace behind) with
    | none =>
      simp only [equals, Option.some.injEq, Prod.mk.injEq] at done
      obtain ⟨rfl, rfl⟩ := done
      exact ⟨before, key, gap, blank, .bare token, blank', split⟩
    | some assigned =>
      simp only [equals, Option.map_eq_some_iff, Prod.mk.injEq] at done
      obtain ⟨⟨text, after⟩, said, rfl, rfl⟩ := done
      obtain ⟨written, value, spelled⟩ := value_sound said
      obtain ⟨inner, blank'', spaced⟩ := skipWhitespace_split assigned
      rw [eat_some_iff.mp equals, spaced, spelled] at split
      refine ⟨before, _, [], blank, .valued token blank' blank'' value, by simp [Blank], ?_⟩
      rw [split]
      simp

/-- What may follow a parameter: whitespace, or anything that is neither part of
a token nor an equals sign. -/
structure Closes (rest : Text) : Prop where
  stops : Stops isTchar rest
  unassigned : ∀ more, skipWhitespace rest ≠ '=' :: more

theorem isTchar_space {char : Char} (space : isSpace char) : isTchar char = false := by
  simp only [isSpace, Bool.or_eq_true, decide_eq_true_eq] at space
  rcases space with rfl | rfl <;> decide

private theorem isSpace_tchar {char : Char} (tchar : isTchar char) : isSpace char = false := by
  by_contra space
  rw [isTchar_space (by simpa using space)] at tchar
  contradiction

theorem stops_blank {class' : Char → Bool} (solid : ∀ char, isSpace char → class' char = false)
    {blank rest : Text} (blank' : Blank blank) (stops : Stops class' rest) :
    Stops class' (blank ++ rest) := by
  cases blank with
  | nil => exact stops
  | cons char blank =>
    rintro first ⟨⟩
    exact solid char (blank' char (by simp))

theorem Token.solid {word : Text} (token : Token word) (rest : Text) :
    Stops isSpace (word ++ rest) := by
  obtain ⟨named, tchars⟩ := token
  cases word with
  | nil => contradiction
  | cons char word =>
    rintro first ⟨⟩
    exact isSpace_tchar (tchars char (by simp))

private theorem Value.solid {written text : Text} (value : Value written text) (rest : Text) :
    Stops isSpace (written ++ rest) := by
  cases value with
  | token token => exact token.solid rest
  | quoted named spelled =>
    rintro first ⟨⟩
    decide

private theorem param_complete {written before rest : Text} {read : Text × Option Text}
    (said : Param written read) (blank : Blank before) (closes : Closes rest) :
    ∃ rest', param (before ++ (written ++ rest)) = some (read, rest') ∧
      skipWhitespace rest' = skipWhitespace rest := by
  cases said with
  | bare token =>
    have started := skipWhitespace_blank blank (token.solid rest)
    have word := token_complete token closes.stops
    have unassigned := eat_none closes.unassigned
    refine ⟨skipWhitespace rest, by simp only [param, started, word, unassigned], ?_⟩
    exact List.dropWhile_idempotent _ _
  | @valued key gap inner value text token blank' blank'' said =>
    have started := skipWhitespace_blank blank
      (token.solid (gap ++ '=' :: (inner ++ (value ++ rest))))
    have word : Offer.token (key ++ (gap ++ '=' :: (inner ++ (value ++ rest)))) =
        some (key, gap ++ '=' :: (inner ++ (value ++ rest))) :=
      token_complete token (stops_blank (fun _ => isTchar_space) blank' (by rintro char ⟨⟩; decide))
    have gapped : skipWhitespace (gap ++ '=' :: (inner ++ (value ++ rest))) =
        '=' :: (inner ++ (value ++ rest)) :=
      skipWhitespace_blank blank' (by rintro char ⟨⟩; decide)
    have inside := skipWhitespace_blank blank'' (said.solid rest)
    have found := value_complete said closes.stops
    refine ⟨rest, ?_, rfl⟩
    simp only [List.append_assoc, List.cons_append, param, started, word, gapped,
      eat_cons, inside, found, Option.map_some]

/-- The end of the line or the comma in front of the next element. -/
def Ends (rest : Text) : Prop := rest = [] ∨ ∃ more, rest = ',' :: more

theorem Ends.stops {class' : Char → Bool} {rest : Text} (ends : Ends rest)
    (outside : class' ',' = false) : Stops class' rest := by
  rcases ends with rfl | ⟨more, rfl⟩
  · simp [Stops]
  · rintro char ⟨⟩
    exact outside

private theorem Blank.append {first second : Text} (blank : Blank first) (blank' : Blank second) :
    Blank (first ++ second) := by
  intro char member
  rcases List.mem_append.mp member with front | back
  · exact blank char front
  · exact blank' char back

/-- Whitespace in front of the parameters belongs to them. -/
theorem Params.blank {before written : Text} {read : List (Text × Option Text)}
    (blank : Blank before) (said : Params written read) : Params (before ++ written) read := by
  cases said with
  | nil blank' => exact .nil (blank.append blank')
  | cons gap inner first more =>
    rw [← List.append_assoc]
    exact .cons (blank.append gap) inner first more

theorem Params.closes {written rest : Text} {read : List (Text × Option Text)}
    (said : Params written read) (ends : Ends rest) : Closes (written ++ rest) := by
  cases said with
  | nil blank =>
    refine ⟨stops_blank (fun _ => isTchar_space) blank (ends.stops (by decide)), ?_⟩
    intro more
    rw [skipWhitespace_blank blank (ends.stops (by decide))]
    rcases ends with rfl | ⟨after, rfl⟩
    · simp
    · simp
  | cons gap inner first more =>
    rw [List.append_assoc]
    refine ⟨stops_blank (fun _ => isTchar_space) gap (by rintro char ⟨⟩; decide), ?_⟩
    intro after
    rw [skipWhitespace_blank gap (by rintro char ⟨⟩; decide)]
    simp

private theorem params_skip {input other : Text}
    (same : skipWhitespace input = skipWhitespace other)
    (fuel : Nat) : params fuel input = params fuel other := by
  cases fuel with
  | zero => rfl
  | succ fuel => rw [params, params, same]

theorem params_sound {fuel : Nat} {input rest : Text} {read : List (Text × Option Text)}
    (done : params fuel input = some (read, rest)) :
    ∃ written, Params written read ∧ input = written ++ rest := by
  induction fuel generalizing input read with
  | zero => simp [params] at done
  | succ fuel ih =>
    obtain ⟨gap, blank, split⟩ := skipWhitespace_split input
    rw [params] at done
    cases semicolon : eat ';' (skipWhitespace input) with
    | none =>
      simp only [semicolon, Option.some.injEq, Prod.mk.injEq] at done
      obtain ⟨rfl, rfl⟩ := done
      exact ⟨gap, .nil blank, split⟩
    | some behind =>
      simp only [semicolon] at done
      cases one : param behind with
      | none => simp [one] at done
      | some found =>
        obtain ⟨first, after⟩ := found
        simp only [one, Option.map_eq_some_iff, Prod.mk.injEq] at done
        obtain ⟨⟨others, last⟩, more, rfl, rfl⟩ := done
        obtain ⟨written, said, rfl⟩ := ih more
        obtain ⟨before, key, behind', blank', param, blank'', rfl⟩ := param_sound one
        refine ⟨_, .cons blank blank' param (said.blank blank''), ?_⟩
        rw [split, eat_some_iff.mp semicolon]
        simp

private theorem params_complete {written rest : Text} {read : List (Text × Option Text)}
    (said : Params written read) (ends : Ends rest) (fuel : Nat) (enough : read.length < fuel) :
    params fuel (written ++ rest) = some (read, rest) := by
  induction said generalizing fuel with
  | @nil blank blank' =>
    obtain ⟨fuel, rfl⟩ := Nat.exists_eq_add_one.mpr enough
    have skipped := skipWhitespace_blank blank' (ends.stops (by decide))
    have done : eat ';' rest = none := by
      apply eat_none
      rintro more rfl
      rcases ends with none | ⟨after, comma⟩
      · simp at none
      · simp at comma
    simp only [params, skipped, done]
  | @cons gap inner word others param more blank blank' first said ih =>
    obtain ⟨fuel, rfl⟩ := Nat.exists_eq_add_one.mpr (Nat.zero_lt_of_lt enough)
    have started : skipWhitespace (gap ++ ';' :: (inner ++ (word ++ (others ++ rest)))) =
        ';' :: (inner ++ (word ++ (others ++ rest))) :=
      skipWhitespace_blank blank (by rintro char ⟨⟩; decide)
    obtain ⟨rest', one, same⟩ := param_complete first blank' (said.closes ends)
    have later := ih fuel (by simpa using enough)
    rw [params_skip same.symm] at later
    simp only [List.append_assoc, List.cons_append, params, started, eat_cons, one, later,
      Option.map_some]

end Parameters

section Lines

theorem Params.length_le {written : Text} {read : List (Text × Option Text)}
    (said : Params written read) : read.length ≤ written.length := by
  induction said with
  | nil _ => simp
  | cons _ _ _ _ ih =>
    simp only [List.length_cons, List.length_append]
    omega

private theorem parseList_nil {fuel : Nat} (some' : 0 < fuel) : parseList fuel [] = some [] := by
  obtain ⟨fuel, rfl⟩ := Nat.exists_eq_add_one.mpr some'
  rfl

/-- One extension is read off in front of the end or a comma. -/
theorem parseList_extension {blank name written rest : Text} {params : List (Text × Option Text)}
    (blank' : Blank blank) (token : Token name) (said : Params written params)
    (ends : Ends rest) (fuel : Nat) :
    parseList (fuel + 1) (blank ++ (name ++ written) ++ rest) =
      (if rest.isEmpty then some rest else eat ',' rest).bind fun rest =>
        (parseList fuel rest).map ({ name, params } :: ·) := by
  have started := skipWhitespace_blank blank' (token.solid (written ++ rest))
  have word := token_complete token (said.closes ends).stops
  have read := params_complete said ends ((written ++ rest).length + 1) (by
    have := said.length_le
    simp only [List.length_append]
    omega)
  have proper : eat ',' (name ++ (written ++ rest)) = none ∧
      (name ++ (written ++ rest)).isEmpty = false := by
    obtain ⟨named, tchars⟩ := token
    cases name with
    | nil => contradiction
    | cons char name =>
      refine ⟨eat_none ?_, rfl⟩
      intro more same
      simp only [List.cons_append, List.cons.injEq] at same
      exact absurd (same.1 ▸ tchars char (by simp)) (by decide)
  rw [List.append_assoc, List.append_assoc, parseList]
  simp only [started, proper.1, proper.2, Bool.false_eq_true, ↓reduceIte, word, read]
  generalize (if rest.isEmpty then some rest else eat ',' rest) = after
  cases after <;> rfl

private theorem parseList_complete {text : Text} {extensions : List Extension}
    (line : Line text extensions) (fuel : Nat) (enough : text.length < fuel) :
    parseList fuel text = some extensions := by
  induction line generalizing fuel with
  | last element =>
    obtain ⟨fuel, rfl⟩ := Nat.exists_eq_add_one.mpr (Nat.zero_lt_of_lt enough)
    cases element with
    | empty blank =>
      have skipped : skipWhitespace (_ ++ []) = [] :=
        skipWhitespace_blank blank (by simp [Stops])
      rw [List.append_nil] at skipped
      simp [parseList, skipped, eat]
    | @extension blank name written params blank' token said =>
      have read := parseList_extension blank' token said (.inl rfl) fuel
      have more : 0 < fuel := by
        have := List.length_pos_iff.mpr token.named
        simp only [List.length_append] at enough
        omega
      simpa [parseList_nil more] using read
  | @more text rest first others element line ih =>
    obtain ⟨fuel, rfl⟩ := Nat.exists_eq_add_one.mpr (Nat.zero_lt_of_lt enough)
    have later := ih fuel (by
      simp only [List.length_append, List.length_cons] at enough
      omega)
    cases element with
    | empty blank =>
      have skipped : skipWhitespace (text ++ ',' :: rest) = ',' :: rest :=
        skipWhitespace_blank blank (by rintro char ⟨⟩; decide)
      simp [parseList, skipped, eat_cons, later]
    | extension blank' token said =>
      have read := parseList_extension blank' token said (.inr ⟨rest, rfl⟩) fuel
      simpa [eat_cons, later] using read

private theorem parseList_sound {fuel : Nat} {text : Text} {extensions : List Extension}
    (done : parseList fuel text = some extensions) : Line text extensions := by
  induction fuel generalizing text extensions with
  | zero => simp [parseList] at done
  | succ fuel ih =>
    obtain ⟨gap, blank, split⟩ := skipWhitespace_split text
    simp only [parseList] at done
    cases comma : eat ',' (skipWhitespace text) with
    | some rest =>
      simp only [comma] at done
      rw [split, eat_some_iff.mp comma]
      exact .more (.empty blank) (ih done)
    | none =>
      simp only [comma] at done
      split at done
      · rename_i ended
        rw [List.isEmpty_iff.mp ended, List.append_nil] at split
        obtain rfl := Option.some.inj done
        rw [split]
        exact .last (.empty blank)
      · cases word : token (skipWhitespace text) with
        | none => simp [word] at done
        | some found =>
          obtain ⟨name, behind⟩ := found
          obtain ⟨token, rebuilt⟩ := token_sound word
          simp only [word] at done
          cases read : params (behind.length + 1) behind with
          | none => simp [read] at done
          | some found =>
            obtain ⟨others, rest⟩ := found
            obtain ⟨written, said, rfl⟩ := params_sound read
            simp only [read] at done
            rw [split, rebuilt]
            cases rest with
            | nil =>
              simp only [List.isEmpty_nil, ↓reduceIte, Option.map_eq_some_iff] at done
              obtain ⟨more, nothing, rfl⟩ := done
              have ended : more = [] := by
                cases fuel with
                | zero => simp [parseList] at nothing
                | succ fuel => exact (Option.some.inj nothing).symm
              rw [ended, List.append_nil]
              exact .last (.extension blank token said)
            | cons char rest =>
              simp only [List.isEmpty_cons, Bool.false_eq_true, ↓reduceIte] at done
              cases comma' : eat ',' (char :: rest) with
              | none => simp [comma'] at done
              | some after =>
                simp only [comma', Option.map_eq_some_iff] at done
                obtain ⟨more, later, rfl⟩ := done
                have joined := Line.more (.extension blank token said) (ih later)
                rw [eat_some_iff.mp comma']
                simpa using joined

/-- The strict reader accepts the header lines of the grammar, as what they say. -/
theorem parse_eq_some_iff {text : Text} {extensions : List Extension} :
    parse text = some extensions ↔ Line text extensions :=
  ⟨parseList_sound, fun line => parseList_complete line _ (Nat.lt_succ_self _)⟩

end Lines

section Alphabet

/-- Every character of the text is an ASCII character. -/
def Ascii (text : Text) : Prop := ∀ char ∈ text, char.toNat < 128

theorem Ascii.append {first second : Text} (ascii : Ascii first) (ascii' : Ascii second) :
    Ascii (first ++ second) := by
  intro char member
  rcases List.mem_append.mp member with member | member
  · exact ascii char member
  · exact ascii' char member

theorem Ascii.cons {char : Char} {text : Text} (first : char.toNat < 128) (ascii : Ascii text) :
    Ascii (char :: text) := by
  intro other member
  rcases List.mem_cons.mp member with rfl | member
  · exact first
  · exact ascii other member

theorem ascii_tchar {char : Char} (tchar : isTchar char) : char.toNat < 128 := by
  simp only [isTchar, Char.isAlphanum, Char.isAlpha, Char.isUpper, Char.isLower, Char.isDigit,
    Bool.or_eq_true, Bool.and_eq_true, decide_eq_true_eq, UInt32.le_iff_toNat_le] at tchar
  rcases tchar with ((⟨-, high⟩ | ⟨-, high⟩) | ⟨-, high⟩) | sign
  · exact Nat.lt_of_le_of_lt high (by decide)
  · exact Nat.lt_of_le_of_lt high (by decide)
  · exact Nat.lt_of_le_of_lt high (by decide)
  · have signs : ∀ sign ∈ "!#$%&'*+-.^_`|~".toList, sign.toNat < 128 := every_char (by decide)
    exact signs char (List.contains_iff_mem.mp sign)

theorem Blank.ascii {blank : Text} (blank' : Blank blank) : Ascii blank := by
  intro char member
  have space := blank' char member
  simp only [isSpace, Bool.or_eq_true, decide_eq_true_eq] at space
  rcases space with rfl | rfl <;> decide

theorem Token.ascii {word : Text} (token : Token word) : Ascii word :=
  fun char member => ascii_tchar (token.tchars char member)

private theorem Spelled.ascii {written text : Text} (spelled : Spelled written text) :
    Ascii written := by
  induction spelled with
  | nil => simp [Ascii]
  | plain tchar more ih => exact ih.cons (ascii_tchar tchar)
  | escaped tchar more ih => exact (ih.cons (ascii_tchar tchar)).cons (by decide)

private theorem Value.ascii {written text : Text} (value : Value written text) : Ascii written := by
  cases value with
  | token token => exact token.ascii
  | quoted named spelled =>
    exact (spelled.ascii.append (Ascii.cons (by decide) (by simp [Ascii]))).cons (by decide)

private theorem Param.ascii {written : Text} {param : Text × Option Text}
    (said : Param written param) :
    Ascii written := by
  cases said with
  | bare token => exact token.ascii
  | valued token blank blank' value =>
    exact token.ascii.append
      (blank.ascii.append ((blank'.ascii.append value.ascii).cons (by decide)))

private theorem Params.ascii {written : Text} {params : List (Text × Option Text)}
    (said : Params written params) : Ascii written := by
  induction said with
  | nil blank' => exact blank'.ascii
  | cons blank blank' first more ih =>
    exact blank.ascii.append ((blank'.ascii.append (first.ascii.append ih)).cons (by decide))

private theorem Element.ascii {text : Text} {extensions : List Extension}
    (element : Element text extensions) : Ascii text := by
  cases element with
  | empty blank' => exact blank'.ascii
  | extension blank' token more => exact blank'.ascii.append (token.ascii.append more.ascii)

private theorem Line.ascii {text : Text} {extensions : List Extension}
    (line : Line text extensions) :
    Ascii text := by
  induction line with
  | last element => exact element.ascii
  | more element line ih => exact element.ascii.append (ih.cons (by decide))

/-- What the strict reader accepts is ASCII, so that the letters and digits the
lenient one asks for are those of ASCII as well. -/
theorem parse_ascii {text : Text} {extensions : List Extension}
    (read : parse text = some extensions) : Ascii text :=
  (parse_eq_some_iff.mp read).ascii

end Alphabet

end Yawc.Offer
