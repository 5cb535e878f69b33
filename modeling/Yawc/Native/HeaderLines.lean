import Yawc.Native.Answer
import Yawc.Compression.Spellings

/-! An extensions header split over lines says what the joined line says. -/

namespace Yawc

namespace Offer

theorem Token.lacks {word : Text} (token : Token word) {char : Char}
    (outside : isTchar char = false) : char ∉ word := by
  intro member
  rw [token.tchars char member] at outside
  contradiction

/-- A quoted string that a line break cuts would have to hold the comma of the
joined line. -/
theorem Spelled.lacks_comma {written text : Text} (spelled : Spelled written text) :
    ',' ∉ written := by
  induction spelled with
  | nil => simp
  | plain tchar _ ih =>
    intro member
    rcases List.mem_cons.mp member with rfl | more
    · exact absurd tchar (by decide)
    · exact ih more
  | escaped tchar _ ih =>
    intro member
    rcases List.mem_cons.mp member with here | member
    · exact absurd here (by decide)
    · rcases List.mem_cons.mp member with rfl | more
      · exact absurd tchar (by decide)
      · exact ih more

private theorem Value.lacks_comma {written text : Text} (value : Value written text) :
    ',' ∉ written := by
  cases value with
  | token token => exact token.lacks (by decide)
  | quoted _ spelled => simp [spelled.lacks_comma]

private theorem Param.lacks_comma {written : Text} {read : Text × Option Text}
    (param : Param written read) : ',' ∉ written := by
  cases param with
  | bare token => exact token.lacks (by decide)
  | valued token blank blank' value =>
    have word : ',' ∉ _ := token.lacks (by decide)
    have before : ',' ∉ _ := blank.lacks (by decide)
    have behind : ',' ∉ _ := blank'.lacks (by decide)
    simp [word, before, behind, value.lacks_comma]

private theorem Params.lacks_comma {written : Text} {read : List (Text × Option Text)}
    (params : Params written read) : ',' ∉ written := by
  induction params with
  | nil blank => exact blank.lacks (by decide)
  | cons blank blank' first _ ih =>
    have before : ',' ∉ _ := blank.lacks (by decide)
    have behind : ',' ∉ _ := blank'.lacks (by decide)
    simp [before, behind, first.lacks_comma, ih]

private theorem Element.lacks_comma {text : Text} {extensions : List Extension}
    (element : Element text extensions) : ',' ∉ text := by
  cases element with
  | empty blank => exact blank.lacks (by decide)
  | extension blank token params =>
    have before : ',' ∉ _ := blank.lacks (by decide)
    have word : ',' ∉ _ := token.lacks (by decide)
    simp [before, word, params.lacks_comma]

theorem Line.join {first second : Text} {front back : List Extension} (line : Line first front)
    (line' : Line second back) : Line (first ++ ',' :: second) (front ++ back) := by
  induction line with
  | last element => exact .more element line'
  | more element _ ih =>
    rw [List.append_assoc, List.append_assoc]
    exact .more element ih

/-- Any comma of a line is between two of its elements. -/
theorem Line.split {text first second : Text} {extensions : List Extension}
    (line : Line text extensions) (joined : text = first ++ ',' :: second) :
    ∃ front back, Line first front ∧ Line second back ∧ extensions = front ++ back := by
  induction line generalizing first with
  | last element =>
    refine absurd ?_ element.lacks_comma
    simp [joined]
  | @more text rest front others element line ih =>
    rcases List.append_eq_append_iff.mp joined with ⟨middle, rfl, tail⟩ | ⟨middle, rfl, tail⟩
    · cases middle with
      | nil =>
        simp only [List.nil_append, List.cons.injEq, true_and] at tail
        subst tail
        rw [List.append_nil]
        exact ⟨front, others, .last element, line, rfl⟩
      | cons char middle =>
        simp only [List.cons_append, List.cons.injEq] at tail
        obtain ⟨rfl, rfl⟩ := tail
        obtain ⟨left, right, line', line'', rfl⟩ := ih rfl
        exact ⟨front ++ left, right, .more element line', line'', by simp⟩
    · cases middle with
      | nil =>
        simp only [List.nil_append, List.cons.injEq, true_and] at tail
        subst tail
        rw [List.append_nil] at element
        exact ⟨front, others, .last element, line, rfl⟩
      | cons char middle =>
        simp only [List.cons_append, List.cons.injEq] at tail
        obtain ⟨rfl, -⟩ := tail
        exact absurd (by simp) element.lacks_comma

private theorem line_append_iff {first second : Text} {extensions : List Extension} :
    Line (first ++ ',' :: second) extensions ↔
      ∃ front back, Line first front ∧ Line second back ∧ extensions = front ++ back := by
  constructor
  · intro line
    exact line.split rfl
  · intro parts
    obtain ⟨front, back, line, line', rfl⟩ := parts
    exact line.join line'

end Offer

section Joining

/-- The byte of a comma. -/
def comma : UInt8 := 44

/-- The lines as one, with commas between them. -/
def joinLines (lines : List Bytes) : Bytes := [comma].intercalate lines

/-- A line is text and follows the grammar. -/
def Reads (line : Bytes) (extensions : List Offer.Extension) : Prop :=
  ∃ text, toStr line = some text ∧ Offer.Line text extensions

private theorem toStr_append (first second : Bytes) :
    toStr (first ++ comma :: second) =
      (toStr first).bind fun front => (toStr second).map fun back => front ++ ',' :: back := by
  have visible : isVisible comma = true := by decide
  have char : Char.ofNat comma.toNat = ',' := by decide
  unfold toStr
  by_cases front : first.all isVisible
  · by_cases back : second.all isVisible
    · simp [List.all_append, front, back, visible, char]
    · simp [List.all_append, front, back, visible]
  · simp [List.all_append, front]

private theorem reads_append_iff {first second : Bytes} {extensions : List Offer.Extension} :
    Reads (first ++ comma :: second) extensions ↔
      ∃ front back, Reads first front ∧ Reads second back ∧ extensions = front ++ back := by
  simp only [Reads, toStr_append, Option.bind_eq_some_iff, Option.map_eq_some_iff]
  constructor
  · intro reads
    obtain ⟨text, ⟨left, readLeft, right, readRight, rfl⟩, whole⟩ := reads
    obtain ⟨front, back, line, line', rfl⟩ := Offer.line_append_iff.mp whole
    exact ⟨front, back, ⟨left, readLeft, line⟩, ⟨right, readRight, line'⟩, rfl⟩
  · intro parts
    obtain ⟨front, back, ⟨left, readLeft, line⟩, ⟨right, readRight, line'⟩, rfl⟩ := parts
    exact ⟨_, ⟨left, readLeft, right, readRight, rfl⟩, line.join line'⟩

theorem listed_nil_iff {extensions : List Offer.Extension} : Listed [] extensions ↔ extensions = [] := by
  simp [Listed]

theorem listed_cons_iff {line : Bytes} {lines : List Bytes} {extensions : List Offer.Extension} :
    Listed (line :: lines) extensions ↔
      ∃ front back, Reads line front ∧ Listed lines back ∧ extensions = front ++ back := by
  constructor
  · intro listed
    obtain ⟨parts, each, rfl⟩ := listed
    obtain ⟨front, others, reads, rest, rfl⟩ := List.forall₂_cons_left_iff.mp each
    exact ⟨front, others.flatten, reads, ⟨others, rest, rfl⟩, rfl⟩
  · intro parts
    obtain ⟨front, back, reads, ⟨others, each, rfl⟩, rfl⟩ := parts
    exact ⟨front :: others, .cons reads each, rfl⟩

private theorem reads_nil_iff {extensions : List Offer.Extension} : Reads [] extensions ↔
    extensions = [] := by
  have empty : Offer.parse [] = some [] := rfl
  simp [Reads, toStr, ← Offer.parse_eq_some_iff, empty, eq_comm]

/-- The joined line says what the lines say one after another. -/
theorem reads_joinLines_iff (lines : List Bytes) {extensions : List Offer.Extension} :
    Reads (joinLines lines) extensions ↔ Listed lines extensions := by
  induction lines generalizing extensions with
  | nil => rw [listed_nil_iff, ← reads_nil_iff]; rfl
  | cons line lines ih =>
    cases lines with
    | nil =>
      have single : joinLines [line] = line := by simp [joinLines]
      rw [single, listed_cons_iff]
      simp [listed_nil_iff]
    | cons next others =>
      have joined : joinLines (line :: next :: others) =
          line ++ comma :: joinLines (next :: others) := by
        simp [joinLines, List.intercalate_cons_cons]
      rw [joined, reads_append_iff, listed_cons_iff]
      simp only [ih]

private theorem listed_joinLines_iff (lines : List Bytes) {extensions : List Offer.Extension} :
    Listed [joinLines lines] extensions ↔ Listed lines extensions := by
  rw [listed_cons_iff, ← reads_joinLines_iff]
  simp [listed_nil_iff]

/-- Lines of any bytes offer what the line offers that joins them with commas. -/
theorem offers_joinLines (lines : List Bytes) :
    Offer.offers (lines.map toStr) = Offer.offers ([joinLines lines].map toStr) := by
  by_cases listed : ∃ extensions, Listed lines extensions
  · obtain ⟨extensions, listed⟩ := listed
    rw [offers_listed listed, offers_listed ((listed_joinLines_iff lines).mpr listed)]
  · have unlisted : ∀ extensions, ¬ Listed lines extensions := not_exists.mp listed
    rw [offers_unlisted unlisted, offers_unlisted]
    intro extensions joined
    exact unlisted extensions ((listed_joinLines_iff lines).mp joined)

end Joining

end Yawc
