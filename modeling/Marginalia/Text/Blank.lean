import Marginalia.Text.Basic

/-!
# Blank characters

A character is blank when it separates words: the Unicode white space characters together with
the four information separators.  Trimming removes blanks at either end and nothing else.
-/

namespace Marginalia

namespace Text

/-- Whether a code point lies in one of the given closed ranges, which stand in ascending order. -/
def covers : List (Nat × Nat) → Nat → Bool
  | [], _ => false
  | (low, high) :: ranges, code =>
      if code < low then false
      else if code ≤ high then true
      else covers ranges code

/-- The ranges of the blank characters. -/
def blankRanges : List (Nat × Nat) :=
  [(0x09, 0x0D), (0x1C, 0x20), (0x85, 0x85), (0xA0, 0xA0), (0x1680, 0x1680), (0x2000, 0x200A),
   (0x2028, 0x2029), (0x202F, 0x202F), (0x205F, 0x205F), (0x3000, 0x3000)]

/-- A character that separates words. -/
def isBlankChar (char : Char) : Bool :=
  covers blankRanges char.toNat

/-- A text without any visible character. -/
def isBlank (text : Text) : Bool :=
  text.all isBlankChar

/-- The text without its leading blanks. -/
def trimLeft (text : Text) : Text :=
  text.dropWhile isBlankChar

/-- The text without its trailing blanks. -/
def trimRight (text : Text) : Text :=
  (text.reverse.dropWhile isBlankChar).reverse

/-- The text without leading and trailing blanks. -/
def trim (text : Text) : Text :=
  trimRight (trimLeft text)

@[simp]
theorem trimLeft_nil : trimLeft [] = [] := rfl

@[simp]
theorem trimRight_nil : trimRight [] = [] := rfl

@[simp]
theorem trim_nil : trim [] = [] := rfl

theorem trimLeft_eq_nil_iff (text : Text) : trimLeft text = [] ↔ isBlank text = true := by
  induction text with
  | nil => simp [trimLeft, isBlank]
  | cons char rest induct =>
      by_cases blank : isBlankChar char <;> simp_all [trimLeft, isBlank]

theorem trimRight_eq_nil_iff (text : Text) : trimRight text = [] ↔ isBlank text = true := by
  have reversed := trimLeft_eq_nil_iff text.reverse
  rw [isBlank, List.all_reverse] at reversed
  rw [trimRight, List.reverse_eq_nil_iff]
  exact reversed

@[simp]
theorem trimLeft_trimLeft (text : Text) : trimLeft (trimLeft text) = trimLeft text := by
  induction text with
  | nil => rfl
  | cons char rest induct =>
      by_cases blank : isBlankChar char <;> simp_all [trimLeft]

@[simp]
theorem trimRight_trimRight (text : Text) : trimRight (trimRight text) = trimRight text := by
  have := trimLeft_trimLeft text.reverse
  simp only [trimLeft] at this
  simp [trimRight, this]

/-- Trimming leaves nothing of blank texts, and of no others. -/
theorem trim_eq_nil_iff (text : Text) : trim text = [] ↔ isBlank text = true := by
  rw [trim, trimRight_eq_nil_iff, isBlank, ← trimLeft_eq_nil_iff text]
  constructor
  · intro blank
    have := (trimLeft_eq_nil_iff (trimLeft text)).mpr blank
    simpa using this
  · intro none
    simp [none]

/-- The text without the given characters at either end. -/
def stripOf (unwanted : Text) (text : Text) : Text :=
  ((text.dropWhile unwanted.contains).reverse.dropWhile unwanted.contains).reverse

end Text

end Marginalia
