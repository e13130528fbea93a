import Mathlib.Data.List.Induction
import Mathlib.Tactic.Common
import Marginalia.Text.Blank

/-!
# What stands between blanks

The spaced words of a text are the stretches between its blanks.  How many blanks stand between two
of them, or at either end, makes no difference, so trimming keeps the words, and texts that are
glued with a blank have the words of one text after those of the other.
-/

namespace Marginalia

namespace Text

/-- What stands between the blanks of a text, in order. -/
def spacedWords (text : Text) : List Text :=
  (text.splitOnP isBlankChar).filter fun word => !word.isEmpty

@[simp]
theorem spacedWords_nil : spacedWords [] = [] := rfl

theorem spacedWords_append_cons {blank : Char} (isBlank : isBlankChar blank = true)
    (front back : Text) :
    spacedWords (front ++ blank :: back) = spacedWords front ++ spacedWords back := by
  rw [spacedWords, List.splitOnP_append_cons front back isBlank, List.filter_append]
  rfl

example : spacedWords " one  two ".toList = ["one".toList, "two".toList] := by decide

theorem spacedWords_cons {blank : Char} (isBlank : isBlankChar blank = true) (text : Text) :
    spacedWords (blank :: text) = spacedWords text :=
  spacedWords_append_cons isBlank [] text

theorem spacedWords_trimLeft (text : Text) : spacedWords (trimLeft text) = spacedWords text := by
  induction text with
  | nil => rfl
  | cons char rest induct =>
      by_cases blank : isBlankChar char = true
      · rw [trimLeft, List.dropWhile_cons_of_pos blank, spacedWords_cons blank]
        exact induct
      · rw [trimLeft, List.dropWhile_cons_of_neg blank]

theorem spacedWords_trimRight (text : Text) : spacedWords (trimRight text) = spacedWords text := by
  induction text using List.reverseRec with
  | nil => rfl
  | append_singleton front char induct =>
      rw [trimRight, List.reverse_append, List.reverse_singleton, List.singleton_append]
      by_cases blank : isBlankChar char = true
      · rw [List.dropWhile_cons_of_pos blank, spacedWords_append_cons blank, spacedWords_nil,
          List.append_nil]
        exact induct
      · rw [List.dropWhile_cons_of_neg blank]
        simp

@[simp]
theorem spacedWords_trim (text : Text) : spacedWords (trim text) = spacedWords text := by
  rw [trim, spacedWords_trimRight, spacedWords_trimLeft]

/-- Texts that are glued with a blank keep their words apart. -/
theorem spacedWords_glue {blank : Char} (isBlank : isBlankChar blank = true)
    (pieces : List Text) : spacedWords (glue [blank] pieces) = pieces.flatMap spacedWords := by
  induction pieces with
  | nil => rfl
  | cons piece pieces induct =>
      cases pieces with
      | nil => simp [glue]
      | cons next pieces =>
          rw [glue, List.append_assoc, List.singleton_append, spacedWords_append_cons isBlank,
            induct]
          rfl

theorem spacedWords_eq_nil_iff (text : Text) : spacedWords text = [] ↔ isBlank text = true := by
  induction text with
  | nil => simp [isBlank]
  | cons char rest induct =>
      by_cases blank : isBlankChar char = true
      · rw [isBlank, List.all_cons, blank, Bool.true_and, ← isBlank, ← induct,
          spacedWords_cons blank]
      · have first : spacedWords (char :: rest) ≠ [] := by
          obtain ⟨word, others, split⟩ :=
            List.exists_cons_of_ne_nil (List.splitOnP_ne_nil isBlankChar rest)
          rw [spacedWords, List.splitOnP_cons_eq_if_modifyHead, if_neg blank, split]
          simp
        simp [first, isBlank, blank]

end Text

end Marginalia
