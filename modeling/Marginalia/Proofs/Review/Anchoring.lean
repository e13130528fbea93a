import Mathlib.Tactic.Common
import Marginalia.Proofs.Diff.Addressing
import Marginalia.Review.Placement

/-!
# Anchoring findings

A finding goes inline when the header of a hunk covers its line, but only a line that the body
reaches has a position to anchor it at.  The two differ on a hunk that was cut off.
-/

namespace Marginalia

namespace Diff

/-- The file that is found under a path has a hunk that shows the line. -/
def Reaches (diff : Diff) (path : Text) (line : Option Int) : Prop :=
  ∃ number ∈ line, ∃ file, diff.survivorAt? path = some file ∧
    ∃ hunk ∈ file.hunks, hunk.showsLine number = true

variable {diff : Diff} {path : Text} {line : Option Int}

/-- Of the lines that can carry a remark, those that a body reaches have a position. -/
theorem isSome_positionOf?_iff_reaches
    (placed : misplacement? (some diff) (some path) line = none) :
    (diff.positionOf? (some path) line).isSome = true ↔ diff.Reaches path line := by
  obtain ⟨visible, number, rfl, positive, file, survives, -⟩ := misplacement?_eq_none_iff.mp placed
  have nonempty := Text.ne_nil_of_isBlank_eq_false visible
  rw [positionOf?_eq_bind nonempty positive, survives, Option.bind_some,
    FileChange.isSome_get?_positions]
  constructor
  · intro shown
    exact ⟨number, rfl, file, survives, shown⟩
  · rintro ⟨other, isNumber, found, isFound, shown⟩
    obtain rfl := Option.some.inj isNumber
    obtain rfl := Option.some.inj (survives.symm.trans isFound)
    exact shown

/-- Consistent hunks reach every line that can carry a remark. -/
theorem reaches_of_isConsistent
    (consistent : ∀ file ∈ diff.files, ∀ hunk ∈ file.hunks, hunk.isConsistent = true)
    (placed : misplacement? (some diff) (some path) line = none) : diff.Reaches path line := by
  obtain ⟨-, number, isLine, -, file, survives, hunk, isHunk, covers⟩ :=
    misplacement?_eq_none_iff.mp placed
  have isFile := (mem_files_of_fileAt? (fileAt?_of_survivorAt? survives)).1
  have agrees := consistent file isFile hunk isHunk
  exact ⟨number, isLine, file, survives, hunk, isHunk,
    (Hunk.showsLine_eq_covers agrees number).trans covers⟩

end Diff

namespace Review

/-- A finding that went inline has a position exactly when the body of a hunk reaches its line, and
always when all hunks are consistent. -/
theorem inline_anchored_iff_reaches (diff : Diff) (review : Review) :
    (∀ issue ∈ (review.place (some diff)).inline.issues,
        ((diff.positionOf? (some issue.file) issue.line).isSome = true ↔
          diff.Reaches issue.file issue.line)) ∧
      (∀ note ∈ (review.place (some diff)).inline.notes,
        ((diff.positionOf? (some note.file) note.line).isSome = true ↔
          diff.Reaches note.file note.line)) ∧
        ((∀ file ∈ diff.files, ∀ hunk ∈ file.hunks, hunk.isConsistent = true) →
          (∀ issue ∈ (review.place (some diff)).inline.issues,
            (diff.positionOf? (some issue.file) issue.line).isSome = true) ∧
            ∀ note ∈ (review.place (some diff)).inline.notes,
              (diff.positionOf? (some note.file) note.line).isSome = true) := by
  have issues : ∀ issue ∈ (review.place (some diff)).inline.issues,
      Diff.misplacement? (some diff) (some issue.file) issue.line = none := by
    intro issue isInline
    exact Option.isNone_iff_eq_none.mp (List.mem_filter.mp isInline).2
  have notes : ∀ note ∈ (review.place (some diff)).inline.notes,
      Diff.misplacement? (some diff) (some note.file) note.line = none := by
    intro note isInline
    exact Option.isNone_iff_eq_none.mp (List.mem_filter.mp isInline).2
  refine ⟨fun issue isInline => Diff.isSome_positionOf?_iff_reaches (issues issue isInline),
    fun note isInline => Diff.isSome_positionOf?_iff_reaches (notes note isInline), ?_⟩
  intro consistent
  constructor
  · intro issue isInline
    have placed := issues issue isInline
    exact (Diff.isSome_positionOf?_iff_reaches placed).mpr
      (Diff.reaches_of_isConsistent consistent placed)
  · intro note isInline
    have placed := notes note isInline
    exact (Diff.isSome_positionOf?_iff_reaches placed).mpr
      (Diff.reaches_of_isConsistent consistent placed)

/-- A diff whose only hunk shows one line and declares as many as wanted. -/
def oneLine (declared : Int) : Diff where
  files :=
    [{ oldPath := some ['f']
       newPath := some ['f']
       hunks :=
        [{ oldStart := 1, oldCount := declared, newStart := 1, newCount := declared
           lines := [⟨.context, ['a']⟩] }] }]

/-- A review with one note. -/
def noteAt (line : Int) : Review where
  notes := [{ file := ['f'], line := some line }]

theorem inline_anchored_iff_reaches_oneLine :
    (∃ note ∈ ((noteAt 1).place (some (oneLine 5))).inline.notes,
        (oneLine 5).Reaches note.file note.line ∧
          ((oneLine 5).positionOf? (some note.file) note.line).isSome = true) ∧
      (∀ file ∈ (oneLine 1).files, ∀ hunk ∈ file.hunks, hunk.isConsistent = true) ∧
        ∀ note ∈ ((noteAt 1).place (some (oneLine 1))).inline.notes,
          ((oneLine 1).positionOf? (some note.file) note.line).isSome = true := by
  have isInline : ⟨['f'], some 1, []⟩ ∈ ((noteAt 1).place (some (oneLine 5))).inline.notes := by
    decide
  have reaches : (oneLine 5).Reaches ['f'] (some 1) :=
    ⟨1, rfl, _, rfl, _, List.mem_singleton.mpr rfl, by decide⟩
  have consistent : ∀ file ∈ (oneLine 1).files, ∀ hunk ∈ file.hunks,
      hunk.isConsistent = true := by decide
  have anchored := (inline_anchored_iff_reaches (oneLine 5) (noteAt 1)).2.1 _ isInline
  exact ⟨⟨_, isInline, reaches, anchored.mpr reaches⟩, consistent,
    ((inline_anchored_iff_reaches (oneLine 1) (noteAt 1)).2.2 consistent).2⟩

/-- A hunk that was cut off sends a note inline that no position anchors. -/
theorem exists_inline_not_anchored :
    ∃ (text : Text) (diff : Diff) (review : Review), Diff.read text = .ok diff ∧
      ∃ note ∈ (review.place (some diff)).inline.notes,
        diff.positionOf? (some note.file) note.line = none := by
  refine ⟨(oneLine 5).print, oneLine 5, noteAt 3, by decide +kernel, ?_⟩
  exact ⟨{ file := ['f'], line := some 3 }, by decide, by decide⟩

end Review

end Marginalia
