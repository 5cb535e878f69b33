import Yawc.Compression.WellFormed

/-! The spellings of an answer that the lenient reader understands, out of those
the grammar allows. -/

namespace Yawc.Offer

/-- No quoted string, no second element, and no whitespace at the end. -/
structure Bare (text : Text) : Prop where
  unquoted : '"' ∉ text
  single : ',' ∉ text
  closed : ∀ char ∈ text.getLast?, isSpace char = false

/-- A bare text without whitespace in front of it. -/
structure Plain (text : Text) : Prop where
  bare : Bare text
  opened : Stops isSpace text

private theorem Bare.nil : Bare [] := ⟨by simp, by simp, by simp⟩

/-- A text that ends with something else than whitespace can be left out in front. -/
theorem Bare.append_iff {front rest : Text} (unquoted : '"' ∉ front) (single : ',' ∉ front)
    (solid : ∀ char ∈ front.getLast?, isSpace char = false) :
    Bare (front ++ rest) ↔ Bare rest := by
  constructor
  · intro bare
    refine ⟨fun member => bare.unquoted (by simp [member]),
      fun member => bare.single (by simp [member]), ?_⟩
    intro char last
    apply bare.closed
    rw [List.getLast?_append, last]
    rfl
  · intro bare
    refine ⟨by simp [unquoted, bare.unquoted], by simp [single, bare.single], ?_⟩
    intro char last
    rw [List.getLast?_append] at last
    cases tail : rest.getLast? with
    | none =>
      rw [tail] at last
      exact solid char last
    | some char' =>
      rw [tail] at last
      obtain rfl : char' = char := by simpa using last
      exact bare.closed char' tail

section Lenient

open WebSocketExtensions (tag parseExtension parseExtensions setParameter fromStr)

private theorem tag_cons (char : Char) (rest : Text) : tag [char] (char :: rest) = some rest := by
  simp [tag]

/-- Whitespace is passed over in front of a fixed character. -/
theorem tag_blank {blank : Text} (blank' : Blank blank) {char : Char}
    (solid : isSpace char = false) (rest : Text) :
    tag [char] ((blank ++ char :: rest).dropWhile isSpace) = some rest := by
  have skipped : skipWhitespace (blank ++ char :: rest) = char :: rest := by
    apply skipWhitespace_blank blank'
    intro first head
    cases head
    exact solid
  rw [skipWhitespace] at skipped
  rw [skipped, tag_cons]

theorem tag_none {char : Char} {input : Text} (other : ∀ rest, input ≠ char :: rest) :
    tag [char] input = none := by
  cases input with
  | nil => rfl
  | cons first rest =>
    have differs : first ≠ char := by
      intro same
      exact other rest (by rw [same])
    simp [tag, differs.symm]

/-- The words that name a parameter. -/
structure Word (key : Text) : Prop where
  named : key ≠ []
  letters : ∀ char ∈ key, isKeyChar char

theorem Word.token {key : Text} (word : Word key) : Token key :=
  ⟨word.named, fun char member => isTchar_of_isKeyChar (word.letters char member)⟩

theorem Closes.letters {rest : Text} (closes : Closes rest) : Stops isKeyChar rest := by
  intro char head
  by_contra letter
  have tchar : isTchar char := isTchar_of_isKeyChar (by simpa using letter)
  rw [closes.stops char head] at tchar
  contradiction

/-- A parameter that has no value. -/
theorem parseExtension_bare {before behind key rest : Text} (blank : Blank before)
    (blank' : Blank behind) (word : Word key) (closes : Closes rest) :
    parseExtension (before ++ ';' :: (behind ++ (key ++ rest))) = some ((key, none), rest) := by
  have opened := tag_blank blank (show isSpace ';' = false by decide) (behind ++ (key ++ rest))
  have started := skipWhitespace_blank blank' (word.token.solid rest)
  obtain ⟨name, left⟩ := span_word word.letters closes.letters
  have unassigned := tag_none closes.unassigned
  rw [skipWhitespace] at started unassigned
  simp [parseExtension, opened, started, name, left, unassigned, word.named]

/-- A parameter with an equals sign, whose value is read as far as it is a number. -/
theorem parseExtension_valued {before behind key gap inner value : Text} (blank : Blank before)
    (blank' : Blank behind) (word : Word key) (gap' : Blank gap) (inner' : Blank inner)
    (solid : Stops isSpace value) :
    parseExtension (before ++ ';' :: (behind ++ (key ++ (gap ++ '=' :: (inner ++ value))))) =
      some ((key, if (value.takeWhile Char.isDigit).isEmpty then none
        else some (value.takeWhile Char.isDigit)), value.dropWhile Char.isDigit) := by
  have opened := tag_blank blank (show isSpace ';' = false by decide)
    (behind ++ (key ++ (gap ++ '=' :: (inner ++ value))))
  have started := skipWhitespace_blank blank' (word.token.solid (gap ++ '=' :: (inner ++ value)))
  have stops : Stops isKeyChar (gap ++ '=' :: (inner ++ value)) := by
    apply stops_blank _ gap'
    · intro char head
      cases head
      decide
    · intro char space
      by_contra letter
      rw [Part.solid_key (by simpa using letter)] at space
      contradiction
  obtain ⟨name, left⟩ := span_word word.letters stops
  have assigned := tag_blank gap' (show isSpace '=' = false by decide) (inner ++ value)
  have valued := skipWhitespace_blank inner' solid
  rw [skipWhitespace] at started valued
  simp [parseExtension, opened, started, name, left, assigned, valued, word.named]

/-- What does not begin with a semicolon is no parameter. -/
theorem parseExtensions_none {input : Text} (some' : input ≠ [])
    (other : ∀ rest, skipWhitespace input ≠ ';' :: rest) (fuel : Nat) (self : WebSocketExtensions) :
    parseExtensions fuel self input = none := by
  cases fuel with
  | zero => rfl
  | succ fuel =>
    have missing := tag_none other
    rw [skipWhitespace] at missing
    simp [parseExtensions, parseExtension, missing, some']

private theorem parseExtensions_cons {input key rest : Text} {value : Option Text}
    (one : parseExtension input = some ((key, value), rest)) (fuel : Nat)
    (self : WebSocketExtensions) :
    parseExtensions (fuel + 1) self input = parseExtensions fuel (self.setParameter key value) rest := by
  have some' : input ≠ [] := by
    rintro rfl
    simp [parseExtension, tag] at one
  simp [parseExtensions, one, some']

theorem Blank.lacks {blank : Text} (blank' : Blank blank) {char : Char}
    (solid : isSpace char = false) : char ∉ blank := by
  intro member
  rw [blank' char member] at solid
  contradiction

theorem Word.lacks {key : Text} (word : Word key) {char : Char} (outside : isKeyChar char = false) :
    char ∉ key := by
  intro member
  rw [word.letters char member] at outside
  contradiction

/-- What ends with a word can be left out in front. -/
theorem Bare.word_iff {front key rest : Text} (word : Word key) (unquoted : '"' ∉ front)
    (single : ',' ∉ front) : Bare (front ++ (key ++ rest)) ↔ Bare rest := by
  rw [← List.append_assoc]
  apply Bare.append_iff
  · simp [unquoted, word.lacks (show isKeyChar '"' = false by decide)]
  · simp [single, word.lacks (show isKeyChar ',' = false by decide)]
  · intro char last
    rw [List.getLast?_append_of_ne_nil _ word.named] at last
    exact Part.solid_key (word.letters char (List.mem_of_mem_getLast? last))

private theorem window_word : Word "server_max_window_bits".toList ∧
    Word "client_max_window_bits".toList :=
  ⟨⟨by simp, every_char (by decide)⟩, ⟨by simp, every_char (by decide)⟩⟩

private theorem Allowed.word {param : Text × Option Text} (allowed : Allowed param) :
    Word param.1 := by
  cases allowed with
  | serverNoContextTakeover => exact ⟨by simp, every_char (by decide)⟩
  | clientNoContextTakeover => exact ⟨by simp, every_char (by decide)⟩
  | serverMaxWindowBits bits named => exact window_word.1
  | clientWindow => exact window_word.2
  | clientMaxWindowBits bits named => exact window_word.2

/-- The value of a parameter is a number. -/
theorem Allowed.digits {key text : Text} (allowed : Allowed (key, some text)) :
    text ≠ [] ∧ ∀ char ∈ text, char.isDigit := by
  cases allowed with
  | serverMaxWindowBits bits named => exact decimal_digits named
  | clientMaxWindowBits bits named => exact decimal_digits named

/-- The lenient reader takes the parameters of the grammar, with the same values, as
long as they are bare. -/
theorem parseExtensions_params {written rest : Text} {params : List (Text × Option Text)}
    (said : Params written params) (allowed : ∀ param ∈ params, Allowed param) (ends : Ends rest)
    (fuel : Nat) (enough : params.length < fuel) (self result : WebSocketExtensions) :
    parseExtensions fuel self (written ++ rest) = some result ↔
      Bare (written ++ rest) ∧
        params.foldl (fun self param => self.setParameter param.1 param.2) self = result := by
  induction said generalizing fuel self with
  | @nil blank blank' =>
    have skipped := skipWhitespace_blank blank' (ends.stops (show isSpace ',' = false by decide))
    obtain ⟨fuel, rfl⟩ := Nat.exists_eq_add_one.mpr enough
    by_cases empty : blank ++ rest = []
    · simp [empty, parseExtensions, Bare.nil]
    · have left : ¬ Bare (blank ++ rest) := by
        intro bare
        rcases ends with rfl | ⟨more, rfl⟩
        · rw [List.append_nil] at empty bare
          have last := List.getLast?_eq_some_getLast empty
          have solid := bare.closed _ last
          rw [blank' _ (List.getLast_mem empty)] at solid
          contradiction
        · exact bare.single (by simp)
      rw [parseExtensions_none empty _ (fuel + 1) self]
      · simp [left]
      · intro more
        rw [skipped]
        rcases ends with rfl | ⟨after, rfl⟩
        · simp
        · simp
  | @cons before behind word others param more blank blank' first said ih =>
    obtain ⟨fuel, rfl⟩ := Nat.exists_eq_add_one.mpr (Nat.zero_lt_of_lt enough)
    have closes := said.closes ends
    have name := (allowed param (by simp)).word
    have later := ih (fun param member => allowed param (by simp [member])) fuel
      (by simpa using enough) (self.setParameter param.1 param.2)
    cases first with
    | bare token =>
      have one := parseExtension_bare blank blank' name closes
      have front : '"' ∉ before ++ ';' :: behind ∧ ',' ∉ before ++ ';' :: behind := by
        simp [blank.lacks, blank'.lacks, isSpace]
      have kept : Bare (before ++ ';' :: behind ++ (word ++ (others ++ rest))) ↔
          Bare (others ++ rest) := Bare.word_iff name front.1 front.2
      simp only [List.append_assoc, List.cons_append] at kept ⊢
      rw [parseExtensions_cons one, later, kept]
      rfl
    | @valued key gap inner value text token gap' inner' value' =>
      cases value' with
      | token token' =>
        obtain ⟨some', digits⟩ := (allowed (key, some value) (by simp)).digits
        have number : Word value := ⟨some', fun char member => Part.digit_key (digits char member)⟩
        have outside : Stops Char.isDigit (others ++ rest) := by
          intro char head
          by_contra digit
          have letter := Part.digit_key (by simpa using digit : char.isDigit)
          rw [closes.letters char head] at letter
          contradiction
        obtain ⟨taken, left⟩ := span_word digits outside
        have one := parseExtension_valued blank blank' name gap' inner'
          (number.token.solid (others ++ rest))
        rw [taken, left, if_neg (by simpa using some')] at one
        have front : '"' ∉ before ++ ';' :: (behind ++ (key ++ (gap ++ '=' :: inner))) ∧
            ',' ∉ before ++ ';' :: (behind ++ (key ++ (gap ++ '=' :: inner))) := by
          simp [blank.lacks, blank'.lacks, gap'.lacks, inner'.lacks, isSpace,
            name.lacks (show isKeyChar '"' = false by decide),
            name.lacks (show isKeyChar ',' = false by decide)]
        have kept : Bare (before ++ ';' :: (behind ++ (key ++ (gap ++ '=' :: inner))) ++
            (value ++ (others ++ rest))) ↔ Bare (others ++ rest) :=
          Bare.word_iff number front.1 front.2
        simp only [List.append_assoc, List.cons_append] at kept ⊢
        rw [parseExtensions_cons one, later, kept]
        rfl
      | @quoted written text named spelled =>
        have solid : Stops isSpace ('"' :: (written ++ '"' :: (others ++ rest))) := by
          intro char head
          cases head
          decide
        have one := parseExtension_valued blank blank' name gap' inner' solid
        have stuck : parseExtensions fuel (self.setParameter key none)
            ('"' :: (written ++ '"' :: (others ++ rest))) = none := by
          apply parseExtensions_none
          · simp
          · intro after
            rw [skipWhitespace]
            simp [isSpace]
        have quotes : ¬ Bare (before ++ ';' :: (behind ++ (key ++ (gap ++ '=' :: (inner ++
            '"' :: (written ++ '"' :: (others ++ rest))))))) := by
          intro bare
          exact bare.unquoted (by simp)
        simp only [List.append_assoc, List.cons_append, List.nil_append]
        rw [parseExtensions_cons one]
        simp [stuck, quotes]

/-- A parameter that an offer may hold means the same to both readers. -/
theorem readParam_setParameter {start next : WebSocketExtensions} {name : Text}
    {value : Option Text} (read : readParam start name value = some next) :
    start.setParameter name value = next := by
  unfold readParam at read
  split at read
  · rename_i flag
    obtain ⟨rfl, rfl⟩ := flag
    exact Option.some.inj read
  · split at read
    · rename_i flag
      obtain ⟨rfl, rfl⟩ := flag
      exact Option.some.inj read
    · split at read
      · rename_i key
        subst key
        cases value with
        | none => simp at read
        | some text =>
          obtain ⟨bits, found, rfl⟩ := Option.map_eq_some_iff.mp read
          obtain ⟨named, rfl⟩ := windowBits_eq_some_iff.mp found
          simp [setParameter, parseU8_decimal named]
      · split at read
        · rename_i key
          subst key
          cases value with
          | none => exact Option.some.inj read
          | some text =>
            obtain ⟨bits, found, rfl⟩ := Option.map_eq_some_iff.mp read
            obtain ⟨named, rfl⟩ := windowBits_eq_some_iff.mp found
            simp [setParameter, parseU8_decimal named]
        · simp at read

private theorem readParams_foldl {params : List (Text × Option Text)} {earlier : List Text}
    {start result : WebSocketExtensions} (read : readParams earlier start params = some result) :
    params.foldl (fun self param => self.setParameter param.1 param.2) start = result := by
  induction params generalizing earlier start with
  | nil => exact Option.some.inj read
  | cons param params ih =>
    obtain ⟨name, value⟩ := param
    rw [readParams] at read
    split at read
    · simp at read
    · split at read
      · simp at read
      · rename_i next one
        rw [List.foldl_cons, readParam_setParameter one]
        exact ih read

theorem name_head : permessageDeflate = 'p' :: "ermessage-deflate".toList := by
  unfold permessageDeflate
  simp

private theorem name_last : permessageDeflate.getLast? = some 'e' := by
  unfold permessageDeflate
  simp

/-- Only the name can begin an answer. -/
theorem fromStr_none {char : Char} (other : char ≠ 'p') (rest : Text) :
    fromStr (char :: rest) = none := by
  rw [fromStr, tag, name_head]
  simp [other.symm]

private theorem name_plain (rest : Text) : Plain (permessageDeflate ++ rest) ↔ Bare rest := by
  have kept : Bare (permessageDeflate ++ rest) ↔ Bare rest := by
    apply Bare.append_iff
    · rw [name_head]
      simp
    · rw [name_head]
      simp
    · intro char last
      rw [name_last] at last
      obtain rfl : 'e' = char := by simpa using last
      decide
  constructor
  · intro plain
    exact kept.mp plain.bare
  · intro bare
    refine ⟨kept.mpr bare, ?_⟩
    intro char head
    rw [name_head] at head
    obtain rfl : 'p' = char := by simpa using head
    decide

/-- An empty element in front of the answer hides it. -/
theorem fromStr_empty {blank : Text} (blank' : Blank blank) (rest : Text) :
    fromStr (blank ++ ',' :: rest) = none := by
  cases blank with
  | nil => exact fromStr_none (by decide) rest
  | cons char blank =>
    apply fromStr_none
    rintro rfl
    simpa [isSpace] using blank' 'p' (by simp)

/-- The answer is read from its first character on. -/
theorem fromStr_extension {blank written rest : Text} {params : List (Text × Option Text)}
    (blank' : Blank blank) (said : Params written params)
    (allowed : ∀ param ∈ params, Allowed param) (ends : Ends rest) (result : WebSocketExtensions) :
    fromStr (blank ++ (permessageDeflate ++ (written ++ rest))) = some result ↔
      Plain (blank ++ (permessageDeflate ++ (written ++ rest))) ∧
        params.foldl (fun self param => self.setParameter param.1 param.2) .default = result := by
  cases blank with
  | nil =>
    have front : tag permessageDeflate (permessageDeflate ++ (written ++ rest)) =
        some (written ++ rest) := by
      rw [tag, if_pos (by simp [List.isPrefixOf_iff_prefix]), List.drop_left]
    have enough : params.length < (written ++ rest).length + 1 := by
      have shorter := said.length_le
      rw [List.length_append]
      omega
    rw [List.nil_append, name_plain, fromStr, front]
    exact parseExtensions_params said allowed ends _ enough .default result
  | cons char blank =>
    have space := blank' char (by simp)
    have other : char ≠ 'p' := by
      rintro rfl
      simp [isSpace] at space
    rw [List.cons_append, fromStr_none other]
    constructor
    · intro read
      simp at read
    · rintro ⟨plain, -⟩
      rw [plain.opened char rfl] at space
      contradiction

/-- Of the spellings the grammar has for an answer, the client understands those
without quotes and commas and without whitespace around them. -/
theorem fromStr_eq_offer_iff {text : Text} {params : List (Text × Option Text)}
    {said : WebSocketExtensions} (parsed : parse text = some [{ name := permessageDeflate, params }])
    (offered : offer params = some said) : fromStr text = some said ↔ Plain text := by
  have allowed := (offer_eq_some_iff.mp offered).1.allowed
  have same := readParams_foldl offered
  have extension {blank written rest : Text} (blank' : Blank blank)
      (written' : Params written params) (ends : Ends rest) :
      fromStr (blank ++ (permessageDeflate ++ (written ++ rest))) = some said ↔
        Plain (blank ++ (permessageDeflate ++ (written ++ rest))) := by
    rw [fromStr_extension blank' written' allowed ends]
    exact and_iff_left same
  generalize only : [({ name := permessageDeflate, params } : Extension)] = extensions at parsed
  cases parse_eq_some_iff.mp parsed with
  | last element =>
    cases element with
    | empty blank' => simp at only
    | extension blank' token written =>
      simp only [List.cons.injEq, Extension.mk.injEq, and_true] at only
      obtain ⟨rfl, rfl⟩ := only
      simpa using extension blank' written (.inl rfl)
  | more element line =>
    cases element with
    | empty blank' =>
      rw [fromStr_empty blank']
      constructor
      · intro read
        simp at read
      · intro plain
        exact absurd (by simp) plain.bare.single
    | extension blank' token written =>
      simp only [List.cons_append, List.nil_append, List.cons.injEq, Extension.mk.injEq] at only
      obtain ⟨⟨rfl, rfl⟩, -⟩ := only
      simpa using extension blank' written (.inr ⟨_, rfl⟩)

/-- Whitespace around the separators is understood. -/
theorem fromStr_eq_offer_iff_spaced :
    fromStr "permessage-deflate ;\tclient_max_window_bits = 10".toList =
      some { WebSocketExtensions.default with clientMaxWindowBits := some (some 10) } := by
  have parsed : parse "permessage-deflate ;\tclient_max_window_bits = 10".toList =
      some [{ name := permessageDeflate
              params := [("client_max_window_bits".toList, some ['1', '0'])] }] := by
    decide +kernel
  apply (fromStr_eq_offer_iff parsed (by decide +kernel)).mpr
  exact ⟨⟨by simp, by simp, by simp [isSpace]⟩, by simp [Stops, isSpace]⟩

/-- A window in quotes is no answer to the client. -/
theorem quoted_answer_missed :
    parse "permessage-deflate; client_max_window_bits=\"10\"".toList =
      some [{ name := permessageDeflate
              params := [("client_max_window_bits".toList, some ['1', '0'])] }] ∧
    offer [("client_max_window_bits".toList, some ['1', '0'])] =
      some { WebSocketExtensions.default with clientMaxWindowBits := some (some 10) } ∧
    fromStr "permessage-deflate; client_max_window_bits=\"10\"".toList = none := by
  refine ⟨by decide +kernel, by decide +kernel, by decide +kernel⟩

end Lenient

end Yawc.Offer
