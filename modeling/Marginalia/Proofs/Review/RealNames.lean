import Mathlib.Tactic.Common
import Marginalia.Proofs.Diff.Addressing
import Marginalia.Proofs.Review.Routing

/-!
# Findings under real names

A finding goes inline under a name that a surviving file has before or after the change.  The path
that stands for the absence of a file is no such name, but it is found like one: in the first file
of the diff that has it on a side.  Where that file is new, a finding on one of its lines goes
inline under the name of no file.
-/

namespace Marginalia

open Text

namespace FileChange

variable {file : FileChange} {path : Text}

theorem isAt_iff : file.isAt path = true ↔ file.oldPath = some path ∨ file.newPath = some path := by
  rw [isAt, Bool.or_eq_true, decide_eq_true_eq, decide_eq_true_eq, or_comm]
  exact or_congr eq_comm eq_comm

theorem newPath_ne_devNull (survives : file.isDeleted = false) : file.newPath ≠ some devNull := by
  intro none
  simp [isDeleted, none, isNoFile] at survives

end FileChange

namespace Diff

variable {diff : Diff} {path : Text} {line : Option Int}

/-! ## Names -/

/-- The name of a file that is still there after the change, before or after it. -/
def IsRealName (diff : Diff) (path : Text) : Prop :=
  path ≠ devNull ∧ isBlank path = false ∧
    ∃ file ∈ diff.files, file.isDeleted = false ∧
      (file.oldPath = some path ∨ file.newPath = some path)

/-- The first file of the diff that has the path for no file on a side is a new one, and one of its
hunks covers the line. -/
def AddsFirst (diff : Diff) (line : Option Int) : Prop :=
  ∃ number, line = some number ∧ 0 < number ∧
    ∃ front file back, diff.files = front ++ file :: back ∧
      (∀ other ∈ front, other.oldPath ≠ some devNull ∧ other.newPath ≠ some devNull) ∧
        file.oldPath = some devNull ∧ file.isDeleted = false ∧
          ∃ hunk ∈ file.hunks, hunk.covers number = true

/-- Nothing but the name of a surviving file, or the path for no file, can carry a remark. -/
theorem eq_devNull_or_isRealName (placed : misplacement? (some diff) (some path) line = none) :
    path = devNull ∨ diff.IsRealName path := by
  obtain ⟨visible, -, -, -, file, found, -⟩ := misplacement?_eq_none_iff.mp placed
  obtain ⟨isFound, survives⟩ := (survivorAt?_eq_some_iff _ _ _).mp found
  obtain ⟨isFile, known⟩ := mem_files_of_fileAt? isFound
  by_cases sentinel : path = devNull
  · exact .inl sentinel
  · exact .inr ⟨sentinel, visible, file, isFile, survives, FileChange.isAt_iff.mp known⟩

/-- The file that is found under the path for no file, where it survives, is new and comes first. -/
theorem survivorAt?_devNull_iff {file : FileChange} :
    diff.survivorAt? devNull = some file ↔
      file.oldPath = some devNull ∧ file.isDeleted = false ∧
        ∃ front back, diff.files = front ++ file :: back ∧
          ∀ other ∈ front, other.oldPath ≠ some devNull ∧ other.newPath ≠ some devNull := by
  have unknown (other : FileChange) : (!other.isAt devNull) = true ↔
      other.oldPath ≠ some devNull ∧ other.newPath ≠ some devNull := by
    rw [Bool.not_eq_true', ← Bool.not_eq_true, FileChange.isAt_iff, not_or]
  rw [survivorAt?_eq_some_iff, fileAt?, List.find?_eq_some_iff_append, FileChange.isAt_iff]
  simp only [unknown]
  constructor
  · rintro ⟨⟨named, split⟩, survives⟩
    -- The new side of a file that survives names a file.
    have old := named.resolve_right (FileChange.newPath_ne_devNull survives)
    exact ⟨old, survives, split⟩
  · rintro ⟨old, survives, split⟩
    exact ⟨⟨.inl old, split⟩, survives⟩

theorem misplacement?_devNull_eq_none_iff :
    misplacement? (some diff) (some devNull) line = none ↔ diff.AddsFirst line := by
  have visible : isBlank devNull = false := by decide
  rw [misplacement?_eq_none_iff]
  simp only [survivorAt?_devNull_iff]
  constructor
  · rintro ⟨-, number, isLine, positive, file, ⟨old, survives, front, back, split, others⟩, covered⟩
    exact ⟨number, isLine, positive, front, file, back, split, others, old, survives, covered⟩
  · rintro ⟨number, isLine, positive, front, file, back, split, others, old, survives, covered⟩
    exact ⟨visible, number, isLine, positive, file, ⟨old, survives, front, back, split, others⟩,
      covered⟩

end Diff

namespace Review

/-! ## Findings -/

/-- The findings that go inline are those whose line can carry a remark. -/
theorem allFindings_inline_place (diff : Option Diff) (review : Review) :
    (review.place diff).inline.allFindings = review.allFindings.filter fun finding =>
      (Diff.misplacement? diff (some finding.file) finding.line).isNone := by
  rw [allFindings, allFindings, List.filter_append, List.filter_map, List.filter_map]
  rfl

theorem mem_allFindings_inline_iff {diff : Option Diff} {review : Review} {finding : Finding} :
    finding ∈ (review.place diff).inline.allFindings ↔ finding ∈ review.allFindings ∧
      Diff.misplacement? diff (some finding.file) finding.line = none := by
  rw [allFindings_inline_place, List.mem_filter, Option.isNone_iff_eq_none]

/-- Findings go inline under real names of files, but for those under the path for no file on a line
that the first file with that path adds. -/
theorem inline_under_real_names_iff (diff : Diff) (review : Review) :
    (∀ finding ∈ (review.place (some diff)).inline.allFindings,
        finding.file ≠ devNull → diff.IsRealName finding.file) ∧
      ((∀ finding ∈ (review.place (some diff)).inline.allFindings,
          diff.IsRealName finding.file) ↔
        ∀ finding ∈ review.allFindings,
          finding.file = devNull → ¬diff.AddsFirst finding.line) := by
  have named : ∀ finding ∈ (review.place (some diff)).inline.allFindings,
      finding.file = devNull ∨ diff.IsRealName finding.file := fun finding isInline =>
    Diff.eq_devNull_or_isRealName (mem_allFindings_inline_iff.mp isInline).2
  refine ⟨fun finding isInline => (named finding isInline).resolve_left, ?_⟩
  constructor
  · intro real finding isFinding sentinel adds
    have placed : Diff.misplacement? (some diff) (some finding.file) finding.line = none := by
      rw [sentinel]
      exact Diff.misplacement?_devNull_eq_none_iff.mpr adds
    exact (real finding (mem_allFindings_inline_iff.mpr ⟨isFinding, placed⟩)).1 sentinel
  · intro apart finding isInline
    obtain ⟨isFinding, placed⟩ := mem_allFindings_inline_iff.mp isInline
    refine (named finding isInline).resolve_left fun sentinel => ?_
    rw [sentinel] at placed
    exact apart finding isFinding sentinel (Diff.misplacement?_devNull_eq_none_iff.mp placed)

/-- A note under the path for no file goes inline on the line of a new file. -/
theorem exists_inline_under_devNull :
    ∃ (text : Text) (diff : Diff) (review : Review), Diff.read text = .ok diff ∧
      ∃ note ∈ (review.place (some diff)).inline.notes, note.file = devNull := by
  let note : Note := { file := devNull, line := some 1 }
  refine ⟨"--- /dev/null\n+++ b/n\n@@ -0,0 +1,1 @@\n+a\n".toList, _, { notes := [note] }, rfl, ?_⟩
  exact ⟨note, by decide, rfl⟩

end Review

end Marginalia
