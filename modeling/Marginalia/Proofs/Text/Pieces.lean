import Mathlib.Tactic.Common
import Marginalia.Text.Basic

/-!
# Cutting and gluing

Cutting a text undoes gluing: pieces that do not hold the separating character, glued with it, are
cut into themselves again.
-/

namespace Marginalia

namespace Text

variable {separator : Char} {parts : List Text}

/-- Cutting starts anew behind every separating character. -/
theorem pieces_append_cons (separator : Char) (front back : Text) :
    pieces separator (front ++ separator :: back) =
      pieces separator front ++ pieces separator back := by
  induction front with
  | nil => simp [pieces]
  | cons char front induct =>
      rw [List.cons_append, pieces, pieces, induct]
      split
      · rfl
      · exact consHead_append (pieces_ne_nil separator front) _

/-- The characters of pieces are characters of the text. -/
theorem mem_of_mem_pieces {text part : Text} (isPart : part ∈ pieces separator text) :
    ∀ char ∈ part, char ∈ text := by
  have general {text : Text} : ∀ part ∈ pieces separator text, part ⊆ text := by
    induction text with
    | nil => simp [pieces]
    | cons char text induct =>
        have others : ∀ part ∈ pieces separator text, ∀ other ∈ part, other ∈ char :: text :=
          fun part isPart other isIn => List.mem_cons_of_mem char (induct part isPart isIn)
        rw [pieces]
        split
        · exact List.forall_mem_cons.mpr ⟨List.nil_subset _, others⟩
        · exact forall_mem_consHead List.mem_cons_self others
  exact general part isPart

/-- A text that does not begin with the separating character has a first piece. -/
theorem exists_mem_pieces {char : Char} {text : Text} (different : char ≠ separator) :
    ∃ part ∈ pieces separator (char :: text), part ≠ [] := by
  rw [pieces, if_neg different]
  cases pieces separator text with
  | nil => exact ⟨[char], List.mem_singleton_self _, List.cons_ne_nil _ _⟩
  | cons part parts => exact ⟨char :: part, List.mem_cons_self, List.cons_ne_nil _ _⟩

theorem pieces_of_notMem {text : Text} (absent : separator ∉ text) :
    pieces separator text = [text] := by
  induction text with
  | nil => rfl
  | cons char text induct =>
      obtain ⟨different, absent⟩ := not_or.mp (mt List.mem_cons.mpr absent)
      rw [pieces, if_neg (Ne.symm different), induct absent, consHead]

theorem pieces_replicate_append (separator : Char) (count : Nat) (text : Text) :
    pieces separator (List.replicate count separator ++ text) =
      List.replicate count [] ++ pieces separator text := by
  induction count with
  | zero => rfl
  | succ count induct =>
      rw [List.replicate_succ, List.cons_append, pieces, if_pos rfl, induct, List.replicate_succ,
        List.cons_append]

theorem glue_cons_of_ne_nil (piece : Text) (nonempty : parts ≠ []) :
    glue [separator] (piece :: parts) = piece ++ separator :: glue [separator] parts := by
  cases parts with
  | nil => exact absurd rfl nonempty
  | cons next parts => rw [glue, List.append_assoc, List.singleton_append]

theorem glue_concat (last : Text) (nonempty : parts ≠ []) :
    glue [separator] (parts ++ [last]) = glue [separator] parts ++ separator :: last := by
  induction parts with
  | nil => exact absurd rfl nonempty
  | cons part parts induct =>
      by_cases none : parts = []
      · rw [none, List.singleton_append, glue_cons_of_ne_nil part (List.cons_ne_nil last []), glue,
          glue]
      · rw [List.cons_append, glue_cons_of_ne_nil part (List.append_ne_nil_of_left_ne_nil none _),
          induct none, glue_cons_of_ne_nil part none, List.append_assoc, List.cons_append]

/-- Glued pieces are cut into themselves. -/
theorem pieces_glue (nonempty : parts ≠ []) (whole : ∀ part ∈ parts, separator ∉ part) :
    pieces separator (glue [separator] parts) = parts := by
  induction parts with
  | nil => exact absurd rfl nonempty
  | cons part parts induct =>
      obtain ⟨first, others⟩ := List.forall_mem_cons.mp whole
      by_cases none : parts = []
      · rw [none, glue, pieces_of_notMem first]
      · rw [glue_cons_of_ne_nil part none, pieces_append_cons, pieces_of_notMem first,
          induct none others, List.singleton_append]

theorem eq_or_exists_of_mem_glue {char : Char} (isIn : char ∈ glue [separator] parts) :
    char = separator ∨ ∃ part ∈ parts, char ∈ part := by
  induction parts with
  | nil => contradiction
  | cons part parts induct =>
      by_cases none : parts = []
      · rw [none, glue] at isIn
        exact .inr ⟨part, List.mem_cons_self, isIn⟩
      · rw [glue_cons_of_ne_nil part none, List.mem_append, List.mem_cons] at isIn
        rcases isIn with isIn | same | isIn
        · exact .inr ⟨part, List.mem_cons_self, isIn⟩
        · exact .inl same
        · rcases induct isIn with same | ⟨other, isOther, isIn⟩
          · exact .inl same
          · exact .inr ⟨other, List.mem_cons_of_mem part isOther, isIn⟩

/-- Behind the first of them, glued pieces each follow a separating character. -/
theorem glue_cons_eq_append_flatMap (part : Text) (parts : List Text) :
    glue [separator] (part :: parts) = part ++ parts.flatMap (separator :: ·) := by
  induction parts generalizing part with
  | nil => rw [glue, List.flatMap_nil, List.append_nil]
  | cons next parts induct =>
      rw [glue_cons_of_ne_nil part (List.cons_ne_nil next parts), induct, List.flatMap_cons,
        List.cons_append]

/-- Pieces that each follow a separating character are cut into themselves, behind an empty one. -/
theorem pieces_flatMap (whole : ∀ part ∈ parts, separator ∉ part) :
    pieces separator (parts.flatMap (separator :: ·)) = [] :: parts := by
  rw [← List.nil_append (parts.flatMap _), ← glue_cons_eq_append_flatMap]
  exact pieces_glue (List.cons_ne_nil [] parts)
    (List.forall_mem_cons.mpr ⟨List.not_mem_nil, whole⟩)

/-- Glued pieces begin as the first of them does. -/
theorem head?_glue {part : Text} (nonempty : part ≠ []) (parts : List Text) :
    (glue [separator] (part :: parts)).head? = part.head? := by
  obtain ⟨first, rest, rfl⟩ := List.exists_cons_of_ne_nil nonempty
  cases parts <;> rfl

/-- Renaming the separating character of glued pieces glues them with another one. -/
theorem map_glue (separator other : Char) (parts : List Text)
    (whole : ∀ part ∈ parts, separator ∉ part) :
    (glue [separator] parts).map (fun char => if char = separator then other else char) =
      glue [other] parts := by
  have kept {part : Text} (absent : separator ∉ part) :
      part.map (fun char => if char = separator then other else char) = part := by
    have same : part.map (fun char => if char = separator then other else char) = part.map id :=
      List.map_congr_left fun char isIn =>
        if_neg fun isSeparator : char = separator => absent (isSeparator ▸ isIn)
    rw [same, List.map_id]
  induction parts with
  | nil => rfl
  | cons part parts induct =>
      obtain ⟨first, others⟩ := List.forall_mem_cons.mp whole
      by_cases none : parts = []
      · rw [none, glue, glue, kept first]
      · rw [glue_cons_of_ne_nil part none, glue_cons_of_ne_nil part none, List.map_append,
          List.map_cons, if_pos rfl, kept first, induct others]

end Text

end Marginalia
