import Mathlib.Tactic.Common
import Marginalia.Text.Word

/-!
# Words

The characters of words do not separate words, and none of them is a mark that stands between
words.
-/

namespace Marginalia

namespace Text

/-- What some ranges cover lies in one of them. -/
theorem exists_of_covers {ranges : List (Nat × Nat)} {code : Nat}
    (covered : covers ranges code = true) : ∃ range ∈ ranges, range.1 ≤ code ∧ code ≤ range.2 := by
  induction ranges with
  | nil => contradiction
  | cons range ranges induct =>
      rw [covers] at covered
      split at covered
      · contradiction
      · rename_i notBelow
        split at covered
        · rename_i notAbove
          exact ⟨range, List.mem_cons_self, Nat.le_of_not_lt notBelow, notAbove⟩
        · obtain ⟨other, isIn, bounds⟩ := induct covered
          exact ⟨other, List.mem_cons_of_mem _ isIn, bounds⟩

theorem wordRanges_apart :
    ∀ word ∈ wordRanges, ∀ blank ∈ blankRanges, word.2 < blank.1 ∨ blank.2 < word.1 := by
  have apart : (wordRanges.all fun word => blankRanges.all fun blank =>
      Nat.blt word.2 blank.1 || Nat.blt blank.2 word.1) = true := by
    decide +kernel
  intro word isWord blank isBlank
  have bounds := List.all_eq_true.mp (List.all_eq_true.mp apart word isWord) blank isBlank
  rwa [Bool.or_eq_true, Nat.blt_eq, Nat.blt_eq] at bounds

theorem isBlankChar_of_isWordChar {char : Char} (isWord : isWordChar char = true) :
    isBlankChar char = false := by
  rw [← Bool.not_eq_true]
  intro isBlank
  obtain ⟨word, isWordRange, wordBounds⟩ := exists_of_covers isWord
  obtain ⟨blank, isBlankRange, blankBounds⟩ := exists_of_covers isBlank
  have apart := wordRanges_apart word isWordRange blank isBlankRange
  omega

/-- A word is what stands where a name may stand: characters of words, and one at least. -/
def IsWord (text : Text) : Prop :=
  text ≠ [] ∧ ∀ char ∈ text, isWordChar char = true

instance decidableIsWord (text : Text) : Decidable (IsWord text) :=
  @instDecidableAnd _ _ inferInstance (List.decidableBAll (fun char => isWordChar char = true) text)

/-- A mark that is no character of words does not stand in a word. -/
theorem IsWord.notMem {text : Text} (isWord : IsWord text) {mark : Char}
    (noWordChar : isWordChar mark = false) : mark ∉ text := by
  intro isIn
  rw [isWord.2 mark isIn] at noWordChar
  contradiction

end Text

end Marginalia
