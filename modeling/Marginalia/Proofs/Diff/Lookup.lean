import Mathlib.Data.List.Find
import Mathlib.Tactic.Common
import Marginalia.Proofs.Diff.Addressing

/-!
# Looking up files

A file is found under its old path as well as under its new one, and the first entry wins.  An entry
under whose old path a later file stands is therefore asked in place of that file.
-/

namespace Marginalia

open Text

namespace Diff

variable {diff : Diff} {path : Text} {line : Int} {front back : List FileChange} {file : FileChange}

/-- Among files of other new paths, the entries that come first under a path are those that had it
before the change. -/
theorem fileAt?_of_distinct (split : diff.files = front ++ file :: back)
    (named : file.newPath = some path) (distinct : ∀ other ∈ front, other.newPath ≠ some path) :
    diff.fileAt? path = (front.find? (·.oldPath = some path)).or (some file) := by
  have shadows : front.find? (·.isAt path) = front.find? (·.oldPath = some path) := by
    apply List.find?_congr
    intro other isOther
    have unnamed : ¬some path = other.newPath := fun same => distinct other isOther same.symm
    simp [FileChange.isAt, unnamed, eq_comm]
  have answers : file.isAt path = true := by simp [FileChange.isAt, named]
  have itself : (file :: back).find? (·.isAt path) = some file := List.find?_cons_of_pos answers
  rw [fileAt?, split, List.find?_append, shadows, itself]

/-- A line that a surviving file shows is answered for by that file exactly when no earlier entry
had its path before the change, or when the first such entry survives and happens to give the line
the same position. -/
theorem surviving_file_answers_iff {text : Text} (isRead : read text = .ok diff)
    (split : diff.files = front ++ file :: back)
    (distinct : ∀ other ∈ front, other.newPath ≠ some path)
    (consistent : ∀ other ∈ diff.files, ∀ hunk ∈ other.hunks, hunk.isConsistent = true)
    (survives : file.isDeleted = false) (named : file.newPath = some path) (positive : 1 ≤ line)
    (covered : ∃ hunk ∈ file.hunks, hunk.covers line = true) :
    (Table.get? line file.positions).isSome = true ∧
      ((shows (some diff) (some path) (some line) = true ∧
          diff.positionOf? (some path) (some line) = Table.get? line file.positions) ↔
        ∀ other ∈ front.find? (·.oldPath = some path),
          other.isDeleted = false ∧
            Table.get? line other.positions = Table.get? line file.positions) := by
  have isFile : file ∈ diff.files := by simp [split]
  have positioned : (Table.get? line file.positions).isSome = true :=
    (FileChange.isSome_get?_positions_of_isConsistent (consistent file isFile) line).mpr covered
  have nonempty : path ≠ [] := by
    rintro rfl
    simp [FileChange.isDeleted, named, isNoFile] at survives
  have shown : shows (some diff) (some path) (some line) =
      (diff.positionOf? (some path) (some line)).isSome :=
    shows_eq_isSome_positionOf? isRead fun other isOther =>
      consistent other (mem_files_of_fileAt? isOther).1
  have onlyAnswer : (diff.positionOf? (some path) (some line)).isSome = true ∧
      diff.positionOf? (some path) (some line) = Table.get? line file.positions ↔
        diff.positionOf? (some path) (some line) = Table.get? line file.positions :=
    and_iff_right_of_imp fun same => same ▸ positioned
  refine ⟨positioned, ?_⟩
  rw [shown, onlyAnswer, positionOf?_eq_bind nonempty positive, survivorAt?,
    fileAt?_of_distinct split named distinct]
  cases shadow : front.find? (·.oldPath = some path) with
  | none => simp [Option.filter_some, survives]
  | some other =>
      cases deleted : other.isDeleted with
      | true =>
          have unanswered : ¬none = Table.get? line file.positions := by
            intro same
            simp [← same] at positioned
          simp [Option.filter_some, deleted, unanswered]
      | false => simp [Option.filter_some, deleted]

/-- A file that was moved. -/
def movedAway : FileChange where
  oldPath := some ['a']
  newPath := some ['b']
  hunks :=
    [{ oldStart := 1, oldCount := 1, newStart := 1, newCount := 1
       lines := [⟨.removed, ['x']⟩, ⟨.added, ['y']⟩] }]

/-- A file that stays where it is. -/
def kept : FileChange where
  oldPath := some ['c']
  newPath := some ['c']
  hunks :=
    [{ oldStart := 7, oldCount := 0, newStart := 8, newCount := 1, lines := [⟨.added, ['z']⟩] }]

/-- A new file under the old path of the one that was moved. -/
def renewed : FileChange where
  oldPath := some devNull
  newPath := some ['a']
  hunks :=
    [{ oldStart := 0, oldCount := 0, newStart := 1, newCount := 2
       lines := [⟨.added, ['p']⟩, ⟨.added, ['q']⟩] }]

/-- A diff in which two entries are known under one path. -/
def contested : Diff := ⟨[movedAway, kept, renewed]⟩

theorem surviving_file_answers_iff_contested :
    (read contested.print = .ok contested ∧
        ∀ other ∈ contested.files, ∀ hunk ∈ other.hunks, hunk.isConsistent = true) ∧
      (∃ hunk ∈ kept.hunks, hunk.covers 8 = true) ∧
        shows (some contested) (some ['c']) (some 8) = true ∧
          contested.positionOf? (some ['c']) (some 8) = Table.get? 8 kept.positions := by
  have isRead : read contested.print = .ok contested := by decide +kernel
  have split : contested.files = [movedAway] ++ kept :: [renewed] := rfl
  have distinct : ∀ other ∈ [movedAway], other.newPath ≠ some ['c'] := by decide
  have consistent : ∀ other ∈ contested.files, ∀ hunk ∈ other.hunks,
      hunk.isConsistent = true := by decide
  have covered : ∃ hunk ∈ kept.hunks, hunk.covers 8 = true := by decide
  have answers :=
    surviving_file_answers_iff isRead split distinct consistent (by decide) rfl (by decide) covered
  exact ⟨⟨isRead, consistent⟩, covered, answers.2.mpr (by decide)⟩

/-- A new file under the old path of one that was moved before it is not found under its path. -/
theorem exists_surviving_file_not_answered :
    ∃ (text : Text) (diff : Diff), read text = .ok diff ∧
      (diff.files.map (·.newPath)).Nodup ∧
        (∀ other ∈ diff.files, ∀ hunk ∈ other.hunks, hunk.isConsistent = true) ∧
          ∃ file ∈ diff.files, ∃ (path : Text) (line : Int),
            file.isDeleted = false ∧ file.newPath = some path ∧ 1 ≤ line ∧
              (∃ hunk ∈ file.hunks, hunk.covers line = true) ∧
                ¬(shows (some diff) (some path) (some line) = true ∧
                  diff.positionOf? (some path) (some line) = Table.get? line file.positions) := by
  refine ⟨contested.print, contested, by decide +kernel, by decide, by decide, renewed, ?_⟩
  exact ⟨by decide, ['a'], 2, by decide, rfl, by decide, by decide, by decide⟩

end Diff

end Marginalia
