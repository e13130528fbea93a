import Mathlib.Data.List.TakeWhile
import Mathlib.Tactic.Common
import Marginalia.Text.Blank
import Marginalia.Text.Lines

/-!
# Trimmed texts

A text is trimmed on the right exactly when it does not end in a blank, so trimming reaches only
the ending of a text, and trimming at both ends is done once and for all.  Trimming keeps a text on
its line.
-/

namespace Marginalia

namespace Text

/-- A text that holds no character that ends a line. -/
def IsOneLine (text : Text) : Prop :=
  ∀ char ∈ text, isBoundary char = false

instance (text : Text) : Decidable (IsOneLine text) :=
  List.decidableBAll (fun char => isBoundary char = false) text

@[simp]
theorem isOneLine_nil : IsOneLine [] := by
  simp [IsOneLine]

@[simp]
theorem isOneLine_cons (char : Char) (text : Text) :
    IsOneLine (char :: text) ↔ isBoundary char = false ∧ IsOneLine text := by
  simp [IsOneLine]

@[simp]
theorem isOneLine_append (front back : Text) :
    IsOneLine (front ++ back) ↔ IsOneLine front ∧ IsOneLine back := by
  simp only [IsOneLine, List.mem_append, or_imp, forall_and]

theorem IsOneLine.of_subset {text part : Text} (oneLine : IsOneLine text) (subset : part ⊆ text) :
    IsOneLine part :=
  fun char isIn => oneLine char (subset isIn)

theorem ne_nil_of_isBlank_eq_false {text : Text} (visible : isBlank text = false) : text ≠ [] := by
  rintro rfl
  simp [isBlank] at visible

/-- Every character that ends a line is blank. -/
theorem isBoundary_of_visible {char : Char} (visible : isBlankChar char = false) :
    isBoundary char = false := by
  rw [← Bool.not_eq_true]
  intro boundary
  simp only [isBoundary, Bool.or_eq_true, decide_eq_true_eq, or_assoc] at boundary
  rcases boundary with rfl | rfl | rfl | rfl | rfl | rfl | rfl | rfl | rfl | rfl <;>
    exact absurd visible (by decide)

/-! ## Trimming -/

theorem trimLeft_suffix (text : Text) : trimLeft text <:+ text :=
  List.dropWhile_suffix _

theorem trimRight_prefix_self (text : Text) : trimRight text <+: text := by
  rw [trimRight, ← List.reverse_suffix, List.reverse_reverse]
  exact List.dropWhile_suffix _

theorem trim_subset (text : Text) : trim text ⊆ text :=
  fun _ isIn => (trimLeft_suffix text).subset ((trimRight_prefix_self _).subset isIn)

theorem trimLeft_eq_self_iff (text : Text) :
    trimLeft text = text ↔ ∀ char ∈ text.head?, isBlankChar char = false := by
  cases text with
  | nil => simp
  | cons char rest => simp [trimLeft, List.dropWhile_eq_self_iff]

theorem trimRight_eq_self_iff (text : Text) :
    trimRight text = text ↔ ∀ char ∈ text.getLast?, isBlankChar char = false := by
  have reversed := trimLeft_eq_self_iff text.reverse
  rw [List.head?_reverse] at reversed
  rw [← reversed, trimRight, ← List.reverse_inj, List.reverse_reverse, trimLeft]

/-- Whatever stands in front, a text that is trimmed on the right stays so. -/
theorem trimRight_append_of_ne_nil {back : Text} (nonempty : back ≠ []) (front : Text) :
    trimRight (front ++ back) = front ++ back ↔ trimRight back = back := by
  rw [trimRight_eq_self_iff, trimRight_eq_self_iff, List.getLast?_append]
  obtain ⟨last, isLast⟩ := Option.ne_none_iff_exists'.mp (mt List.getLast?_eq_none_iff.mp nonempty)
  simp [isLast]

/-- The ending of a text that is trimmed on the right is trimmed on the right. -/
theorem trimRight_of_append {front back : Text}
    (trimmed : trimRight (front ++ back) = front ++ back) : trimRight back = back := by
  by_cases empty : back = []
  · simp [empty]
  · exact (trimRight_append_of_ne_nil empty front).mp trimmed

/-- Trimming on the left reaches as far as to the first visible character. -/
theorem trimLeft_append {text : Text} (visible : ∃ char ∈ text.head?, isBlankChar char = false)
    (front : Text) : trimLeft (front ++ text) = trimLeft front ++ text := by
  have trimmed : trimLeft text = text := by
    obtain ⟨first, isFirst, notBlank⟩ := visible
    rw [trimLeft_eq_self_iff]
    intro char alsoFirst
    obtain rfl := Option.some.inj (isFirst.symm.trans alsoFirst)
    exact notBlank
  rw [trimLeft, List.dropWhile_append]
  split
  · rename_i none
    rw [trimLeft, List.isEmpty_iff.mp none]
    exact trimmed
  · rfl

theorem trimRight_append {text : Text}
    (visible : ∃ char ∈ text.getLast?, isBlankChar char = false) (back : Text) :
    trimRight (text ++ back) = text ++ trimRight back := by
  have reversed := trimLeft_append (List.head?_reverse.symm ▸ visible) back.reverse
  rw [trimRight, trimRight, List.reverse_append, ← trimLeft, reversed]
  simp [trimLeft]

@[simp]
theorem trimLeft_trim (text : Text) : trimLeft (trim text) = trim text := by
  rw [trim, trimLeft_eq_self_iff]
  intro char isFirst
  obtain ⟨tail, same⟩ := trimRight_prefix_self (trimLeft text)
  have alsoFirst : char ∈ (trimLeft text).head? := by
    rw [← same, List.head?_append, isFirst]
    rfl
  exact (trimLeft_eq_self_iff (trimLeft text)).mp (trimLeft_trimLeft text) char alsoFirst

@[simp]
theorem trimRight_trim (text : Text) : trimRight (trim text) = trim text :=
  trimRight_trimRight (trimLeft text)

@[simp]
theorem trim_trim (text : Text) : trim (trim text) = trim text := by
  rw [trim, trimLeft_trim, trimRight_trim]

/-- A trimmed text neither begins nor ends in a blank. -/
theorem trim_eq_self_iff (text : Text) :
    trim text = text ↔
      (∀ char ∈ text.head?, isBlankChar char = false) ∧
        ∀ char ∈ text.getLast?, isBlankChar char = false := by
  rw [← trimLeft_eq_self_iff, ← trimRight_eq_self_iff]
  constructor
  · intro trimmed
    exact ⟨trimmed ▸ trimLeft_trim text, trimmed ▸ trimRight_trim text⟩
  · rintro ⟨left, right⟩
    rw [trim, left, right]

end Text

end Marginalia
