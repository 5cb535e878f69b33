import Mathlib.Data.List.TakeWhile

/-! Texts as their UTF-8 bytes, and cuts of a text at a byte offset. -/

namespace Utf8

def bytes (text : List Char) : List UInt8 := text.flatMap String.utf8EncodeChar

/-- The length of the text in bytes. -/
def size (text : List Char) : Nat := (bytes text).length

/-- The two parts of the text at a byte offset, unless the offset lies behind the
text or inside a character. -/
def splitAt (offset : Nat) : List Char → Option (List Char × List Char)
  | [] => if offset = 0 then some ([], []) else none
  | char :: rest =>
    if offset = 0 then some ([], char :: rest)
    else if char.utf8Size ≤ offset then
      (splitAt (offset - char.utf8Size) rest).map fun (front, back) => (char :: front, back)
    else none

@[simp] theorem bytes_nil : bytes [] = [] := rfl

theorem bytes_cons (char : Char) (rest : List Char) :
    bytes (char :: rest) = String.utf8EncodeChar char ++ bytes rest := rfl

@[simp] theorem size_nil : size [] = 0 := rfl

theorem size_cons (char : Char) (rest : List Char) :
    size (char :: rest) = char.utf8Size + size rest := by
  simp [size, bytes_cons]

theorem size_append (front back : List Char) : size (front ++ back) = size front + size back := by
  simp [size, bytes]

/-- A cut behind whole characters goes through. -/
theorem splitAt_size (front back : List Char) :
    splitAt (size front) (front ++ back) = some (front, back) := by
  induction front with
  | nil => cases back <;> simp [splitAt]
  | cons char front ih =>
    have positive := char.utf8Size_pos
    have outside : size (char :: front) ≠ 0 := by
      rw [size_cons]
      omega
    have inside : char.utf8Size ≤ size (char :: front) := by
      rw [size_cons]
      omega
    have left : size (char :: front) - char.utf8Size = size front := by
      rw [size_cons]
      omega
    simp only [List.cons_append, splitAt, outside, inside, ↓reduceIte, left, ih, Option.map_some]

section Ascii

/-- The one byte of an ASCII character, and bytes from 128 on for the others. -/
theorem encode_cases (char : Char) :
    (char.toNat < 128 ∧ String.utf8EncodeChar char = [char.toUInt8]) ∨
      (128 ≤ char.toNat ∧ ∀ byte ∈ String.utf8EncodeChar char, 128 ≤ byte.toNat) := by
  by_cases ascii : char.toNat < 128
  · left
    refine ⟨ascii, ?_⟩
    have small : char.val.toNat ≤ 0x7f := Nat.le_of_lt_succ ascii
    simp only [String.utf8EncodeChar, small, ↓reduceIte]
    rfl
  · right
    refine ⟨Nat.le_of_not_lt ascii, ?_⟩
    have large : ¬ char.val.toNat ≤ 0x7f := by
      intro small
      exact ascii (Nat.lt_succ_of_le small)
    intro byte member
    simp only [String.utf8EncodeChar, large, ↓reduceIte] at member
    split at member
    · simp only [List.mem_cons, List.not_mem_nil, or_false] at member
      rcases member with rfl | rfl <;> simp only [UInt8.toNat_ofNat'] <;> omega
    · split at member
      · simp only [List.mem_cons, List.not_mem_nil, or_false] at member
        rcases member with rfl | rfl | rfl <;> simp only [UInt8.toNat_ofNat'] <;> omega
      · simp only [List.mem_cons, List.not_mem_nil, or_false] at member
        rcases member with rfl | rfl | rfl | rfl <;> simp only [UInt8.toNat_ofNat'] <;> omega

theorem utf8Size_ascii {char : Char} (ascii : char.toNat < 128) : char.utf8Size = 1 := by
  rcases encode_cases char with ⟨_, encoded⟩ | ⟨large, _⟩
  · rw [← String.length_utf8EncodeChar, encoded]
    rfl
  · omega

theorem toNat_toUInt8 {char : Char} (ascii : char.toNat < 128) :
    char.toUInt8.toNat = char.toNat := by
  have small : char.val.toNat < 2 ^ 8 := Nat.lt_trans ascii (by decide)
  rw [Char.toUInt8, UInt32.toNat_toUInt8, Nat.mod_eq_of_lt small]
  rfl

/-- The first byte of a text is that of an ASCII character only if the text
starts with that character. -/
theorem head?_bytes {char : Char} (ascii : char.toNat < 128) (text : List Char) :
    (bytes text).head? = some char.toUInt8 ↔ text.head? = some char := by
  cases text with
  | nil => simp
  | cons first rest =>
    rw [bytes_cons]
    rcases encode_cases first with ⟨small, encoded⟩ | ⟨large, encoded⟩
    · simp only [encoded, List.cons_append, List.head?_cons, Option.some.injEq]
      constructor
      · intro equal
        apply Char.toNat_inj.mp
        rw [← toNat_toUInt8 small, equal, toNat_toUInt8 ascii]
      · rintro rfl
        rfl
    · have other : first ≠ char := by
        rintro rfl
        omega
      cases spelled : String.utf8EncodeChar first with
      | nil => exact absurd spelled String.utf8EncodeChar_ne_nil
      | cons byte more =>
        have high := encoded byte (by simp [spelled])
        simp only [List.cons_append, List.head?_cons, Option.some.injEq, other, iff_false]
        rintro rfl
        rw [toNat_toUInt8 ascii] at high
        omega

/-- A class of ASCII characters and the class of their bytes. -/
structure Class (byteClass : UInt8 → Bool) (class' : Char → Bool) : Prop where
  ascii : ∀ char, char.toNat < 128 → byteClass char.toUInt8 = class' char
  high : ∀ byte, 128 ≤ byte.toNat → byteClass byte = false
  outside : ∀ char, 128 ≤ char.toNat → class' char = false

variable {byteClass : UInt8 → Bool} {class' : Char → Bool}

/-- Counting the leading bytes of a class finds the leading characters of it. -/
theorem Class.takeWhile (agree : Class byteClass class') (text : List Char) :
    ((bytes text).takeWhile byteClass).length = size (text.takeWhile class') := by
  induction text with
  | nil => rfl
  | cons char rest ih =>
    rcases encode_cases char with ⟨small, encoded⟩ | ⟨large, encoded⟩
    · by_cases inside : class' char = true
      · have counted : byteClass char.toUInt8 = true := (agree.ascii char small).trans inside
        simp only [bytes_cons, encoded, List.cons_append, List.nil_append,
          List.takeWhile_cons_of_pos counted, List.takeWhile_cons_of_pos inside, List.length_cons,
          ih, size_cons, utf8Size_ascii small]
        omega
      · have counted : ¬ byteClass char.toUInt8 = true := by
          rw [agree.ascii char small]
          exact inside
        simp [bytes_cons, encoded, List.takeWhile_cons_of_neg counted,
          List.takeWhile_cons_of_neg inside]
    · have outside : ¬ class' char = true := by simp [agree.outside char large]
      cases spelled : String.utf8EncodeChar char with
      | nil => exact absurd spelled String.utf8EncodeChar_ne_nil
      | cons byte more =>
        have high : ¬ byteClass byte = true := by
          simp [agree.high byte (encoded byte (by simp [spelled]))]
        simp [bytes_cons, spelled, List.takeWhile_cons_of_neg high,
          List.takeWhile_cons_of_neg outside]

theorem Class.all (agree : Class byteClass class') (text : List Char) :
    (bytes text).all byteClass = text.all class' := by
  induction text with
  | nil => rfl
  | cons char rest ih =>
    rw [bytes_cons, List.all_append, ih, List.all_cons]
    congr 1
    rcases encode_cases char with ⟨small, encoded⟩ | ⟨large, encoded⟩
    · simp [encoded, agree.ascii char small]
    · rw [agree.outside char large]
      cases spelled : String.utf8EncodeChar char with
      | nil => exact absurd spelled String.utf8EncodeChar_ne_nil
      | cons byte more => simp [agree.high byte (encoded byte (by simp [spelled]))]

end Ascii

end Utf8
