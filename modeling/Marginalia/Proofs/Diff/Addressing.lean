import Mathlib.Data.List.TakeWhile
import Mathlib.Tactic.Common
import Marginalia.Proofs.Diff.Provenance
import Marginalia.Proofs.Diff.Shown

/-!
# Addressable lines

Whether a line can carry a remark, where it stands, and what it says are answered by three walks
over the hunks of the file that is found under a path.  On consistent hunks they answer for the same
line: the one in the row of the printed file that the position names.
-/

namespace Marginalia

open Text

namespace FileChange

variable {file : FileChange}

/-! ## Rows -/

/-- A printed line that opens no hunk. -/
def opensNoHunk (line : Text) : Bool :=
  !"@@".toList.isPrefixOf line

/-- The rows of a file: the lines that are printed of it, from the header of the first hunk on. -/
def rows (file : FileChange) : List Text :=
  (lines (Diff.print ⟨[file]⟩)).dropWhile opensNoHunk

theorem rows_eq (stays : file.StaysOnLines) : file.rows = file.hunks.flatMap Hunk.rendered := by
  have printed : lines (Diff.print ⟨[file]⟩) = file.rendered := by
    rw [Diff.lines_print (List.forall_mem_singleton.mpr stays), Diff.rendered,
      List.flatMap_singleton]
  have old : opensNoHunk ("--- ".toList ++ sidePath ['a', '/'] file.oldPath) = true := rfl
  have new : opensNoHunk ("+++ ".toList ++ sidePath ['b', '/'] file.newPath) = true := rfl
  rw [rows, printed, FileChange.rendered, List.dropWhile_cons_of_pos old,
    List.dropWhile_cons_of_pos new]
  cases file.hunks with
  | nil => rfl
  | cons hunk hunks =>
      have header : ¬opensNoHunk hunk.header = true := by
        obtain ⟨rest, opening⟩ : ∃ rest, hunk.header = '@' :: '@' :: rest := ⟨_, rfl⟩
        rw [opening]
        exact Bool.false_ne_true
      rw [List.flatMap_cons, Hunk.rendered, List.cons_append, List.dropWhile_cons_of_neg header]

/-! ## Positions and contents -/

theorem contentAt?_eq_none_iff (line : Int) :
    file.contentAt? line = none ↔ ∀ shown ∈ file.shown, shown.number ≠ line := by
  simp [contentAt?]

/-- A line says something only where the header of a consistent hunk covers it. -/
theorem contentAt?_eq_none_of_not_covered
    (consistent : ∀ hunk ∈ file.hunks, hunk.isConsistent = true) {line : Int}
    (uncovered : ¬∃ hunk ∈ file.hunks, hunk.covers line = true) : file.contentAt? line = none := by
  rw [contentAt?_eq_none_iff]
  intro shown isShown isLine
  obtain ⟨hunk, isHunk, shows⟩ := (exists_mem_shownFrom_iff 0 file.hunks line).mp
    ⟨shown, isShown, isCovered_of_mem_shownFrom consistent shown isShown, isLine⟩
  exact uncovered ⟨hunk, isHunk, ((hunk.showsLine_iff line).mp shows).1⟩

theorem isSome_get?_positions_of_isConsistent
    (consistent : ∀ hunk ∈ file.hunks, hunk.isConsistent = true) (line : Int) :
    (Table.get? line file.positions).isSome = true ↔
      ∃ hunk ∈ file.hunks, hunk.covers line = true := by
  rw [isSome_get?_positions]
  constructor
  · rintro ⟨hunk, isHunk, shows⟩
    exact ⟨hunk, isHunk, (Hunk.showsLine_eq_covers (consistent hunk isHunk) line) ▸ shows⟩
  · rintro ⟨hunk, isHunk, covers⟩
    exact ⟨hunk, isHunk, (Hunk.showsLine_eq_covers (consistent hunk isHunk) line).trans covers⟩

/-- The row that a position names holds the line that has the position. -/
theorem getElem?_rows_of_get?_positions (stays : file.StaysOnLines)
    (consistent : ∀ hunk ∈ file.hunks, hunk.isConsistent = true) {line : Int} {position : Nat}
    (found : Table.get? line file.positions = some position) :
    ∃ body : BodyLine, body.kind.inNew = true ∧ file.rows[position]? = some body.render ∧
      file.contentAt? line = some body.content := by
  rw [get?_positions_of_isConsistent file consistent, Option.map_eq_some_iff] at found
  obtain ⟨shown, last, rfl⟩ := found
  have isShown : shown ∈ file.shown := List.mem_reverse.mp (List.mem_of_find?_eq_some last)
  obtain ⟨index, body, row, isRow, inNew, content⟩ := getElem?_of_mem_shownFrom isShown
  refine ⟨body, inNew, ?_, ?_⟩
  · rw [rows_eq stays, row, Nat.zero_add, isRow]
  · rw [contentAt?, last, content]
    rfl

end FileChange

theorem LineKind.inNew_iff (kind : LineKind) :
    kind.inNew = true ↔ kind = .added ∨ kind = .context := by
  cases kind <;> simp [inNew]

namespace Diff

variable {diff : Diff} {path : Text} {line : Int}

/-! ## Questions -/

theorem fileAt?_of_survivorAt? {file : FileChange} (survives : diff.survivorAt? path = some file) :
    diff.fileAt? path = some file :=
  ((survivorAt?_eq_some_iff diff path file).mp survives).1

/-- A line can carry a remark when a hunk of the file that is found covers it. -/
theorem misplacement?_eq_none_iff {line : Option Int} :
    misplacement? (some diff) (some path) line = none ↔
      isBlank path = false ∧ ∃ number, line = some number ∧ 0 < number ∧
        ∃ file, diff.survivorAt? path = some file ∧
          ∃ hunk ∈ file.hunks, hunk.covers number = true := by
  unfold misplacement?
  by_cases blank : isBlank path = true
  · simp [blank]
  cases line with
  | none => simp [blank]
  | some number =>
      by_cases nonpositive : number ≤ 0
      · simp [blank, nonpositive, Int.not_lt.mpr nonpositive]
      have positive : 0 < number := Int.not_le.mp nonpositive
      cases found : diff.fileAt? path with
      | none => simp [blank, nonpositive, found]
      | some file =>
          cases deleted : file.isDeleted with
          | true => simp [blank, nonpositive, found, deleted]
          | false => simp [blank, nonpositive, positive, found, deleted]

theorem positionOf?_eq_some_iff {line : Option Int} {position : Nat} :
    diff.positionOf? (some path) line = some position ↔
      path ≠ [] ∧ ∃ number, line = some number ∧ 0 < number ∧
        ∃ file, diff.survivorAt? path = some file ∧
          Table.get? number file.positions = some position := by
  unfold positionOf? askedPlace?
  cases line with
  | none => simp
  | some number =>
      by_cases empty : path = []
      · simp [empty]
      by_cases nonpositive : number ≤ 0
      · simp [nonpositive, Int.not_lt.mpr nonpositive]
      have positive : 0 < number := Int.not_le.mp nonpositive
      simp [empty, nonpositive, positive, Option.bind_eq_some_iff]

theorem positionOf?_eq_bind (nonempty : path ≠ []) (positive : 0 < line) :
    diff.positionOf? (some path) (some line) =
      (diff.survivorAt? path).bind fun file => Table.get? line file.positions := by
  simp [positionOf?, askedPlace?, nonempty, Int.not_le.mpr positive]

/-- No file of a diff that was read is known under a path of blanks. -/
theorem isBlank_of_fileAt? {text : Text} {file : FileChange} (isRead : read text = .ok diff)
    (found : diff.fileAt? path = some file) (nonempty : path ≠ []) : isBlank path = false := by
  obtain ⟨isFile, known⟩ := mem_files_of_fileAt? found
  have source := isReadFrom_of_read isRead file isFile
  have named : some path = file.newPath ∨ some path = file.oldPath := by
    simpa [FileChange.isAt] using known
  rcases named with new | old
  · exact ((source.newPath path new.symm).isPrintablePath nonempty).isBlank
  · exact ((source.oldPath path old.symm).isPrintablePath nonempty).isBlank

theorem shows_eq_isSome_positionOf? {text : Text} (isRead : read text = .ok diff)
    (consistent : ∀ file ∈ diff.fileAt? path, ∀ hunk ∈ file.hunks, hunk.isConsistent = true) :
    shows (some diff) (some path) (some line) =
      (diff.positionOf? (some path) (some line)).isSome := by
  rw [Bool.eq_iff_iff, shows, Option.isNone_iff_eq_none, misplacement?_eq_none_iff,
    Option.isSome_iff_exists]
  simp only [positionOf?_eq_some_iff]
  constructor
  · rintro ⟨visible, number, isLine, positive, file, survives, covered⟩
    have agrees := consistent file (fileAt?_of_survivorAt? survives)
    obtain ⟨position, isPosition⟩ := Option.isSome_iff_exists.mp
      ((FileChange.isSome_get?_positions_of_isConsistent agrees number).mpr covered)
    exact ⟨position, ne_nil_of_isBlank_eq_false visible, number, isLine, positive, file, survives,
      isPosition⟩
  · rintro ⟨position, nonempty, number, isLine, positive, file, survives, isPosition⟩
    have found := fileAt?_of_survivorAt? survives
    have covered :=
      (FileChange.isSome_get?_positions_of_isConsistent (consistent file found) number).mp
        (Option.isSome_iff_exists.mpr ⟨position, isPosition⟩)
    have visible := isBlank_of_fileAt? isRead found nonempty
    exact ⟨visible, number, isLine, positive, file, survives, covered⟩

theorem exists_row_of_positionOf? {text : Text} {position : Nat} (isRead : read text = .ok diff)
    (consistent : ∀ file ∈ diff.fileAt? path, ∀ hunk ∈ file.hunks, hunk.isConsistent = true)
    (found : diff.positionOf? (some path) (some line) = some position) :
    ∃ file ∈ diff.fileAt? path, ∃ body : BodyLine,
      (body.kind = .added ∨ body.kind = .context) ∧
        file.rows[position]? = some body.render ∧
          lineContent (some diff) (some path) (some line) = body.content := by
  obtain ⟨nonempty, number, isLine, -, file, survives, isPosition⟩ :=
    positionOf?_eq_some_iff.mp found
  obtain rfl := Option.some.inj isLine
  have isFound := fileAt?_of_survivorAt? survives
  have stays := (isReadFrom_of_read isRead file (mem_files_of_fileAt? isFound).1).staysOnLines
  obtain ⟨body, inNew, row, content⟩ :=
    FileChange.getElem?_rows_of_get?_positions stays (consistent file isFound) isPosition
  refine ⟨file, isFound, body, body.kind.inNew_iff.mp inNew, row, ?_⟩
  simp [lineContent, nonempty, survives, content]

theorem lineContent_of_not_shows {text : Text} (isRead : read text = .ok diff)
    (consistent : ∀ file ∈ diff.fileAt? path, ∀ hunk ∈ file.hunks, hunk.isConsistent = true)
    (positive : 0 < line) (hidden : shows (some diff) (some path) (some line) = false) :
    lineContent (some diff) (some path) (some line) = [] := by
  by_cases empty : path = []
  · simp [lineContent, empty]
  cases survives : diff.survivorAt? path with
  | none => simp [lineContent, survives]
  | some file =>
      have found := fileAt?_of_survivorAt? survives
      have uncovered : ¬∃ hunk ∈ file.hunks, hunk.covers line = true := by
        intro covered
        have shown := misplacement?_eq_none_iff.mpr
          ⟨isBlank_of_fileAt? isRead found empty, line, rfl, positive, file, survives, covered⟩
        simp [shows, shown] at hidden
      have unsaid := FileChange.contentAt?_eq_none_of_not_covered (consistent file found) uncovered
      simp [lineContent, survives, unsaid]

/-- The test for addressable lines, the positions, the contents, and the printed file agree on every
line of a file whose hunks are consistent, however the hunks overlap. -/
theorem addressing_agrees {text : Text} (isRead : read text = .ok diff)
    (consistent : ∀ file ∈ diff.fileAt? path, ∀ hunk ∈ file.hunks, hunk.isConsistent = true) :
    shows (some diff) (some path) (some line) =
        (diff.positionOf? (some path) (some line)).isSome ∧
      (∀ position, diff.positionOf? (some path) (some line) = some position →
        ∃ file ∈ diff.fileAt? path, ∃ body : BodyLine,
          (body.kind = .added ∨ body.kind = .context) ∧
            file.rows[position]? = some body.render ∧
              lineContent (some diff) (some path) (some line) = body.content) ∧
        (shows (some diff) (some path) (some line) = false → 1 ≤ line →
          lineContent (some diff) (some path) (some line) = []) := by
  refine ⟨shows_eq_isSome_positionOf? isRead consistent, ?_, ?_⟩
  · intro position found
    exact exists_row_of_positionOf? isRead consistent found
  · intro hidden positive
    exact lineContent_of_not_shows isRead consistent (by omega) hidden

/-- A file with two hunks that overlap and stand out of order. -/
def overlapping : Diff where
  files :=
    [{ oldPath := some ['f']
       newPath := some ['f']
       hunks :=
        [{ oldStart := 5, oldCount := 2, newStart := 5, newCount := 3
           lines := [⟨.context, ['e']⟩, ⟨.removed, ['x']⟩, ⟨.added, ['F']⟩, ⟨.added, ['G']⟩] },
         { oldStart := 4, oldCount := 2, newStart := 4, newCount := 2
           lines := [⟨.context, ['d']⟩, ⟨.context, ['E']⟩, ⟨.noNewline, []⟩] }] }]

theorem addressing_agrees_overlapping :
    (read overlapping.print = .ok overlapping ∧
        ∀ file ∈ overlapping.fileAt? ['f'], ∀ hunk ∈ file.hunks, hunk.isConsistent = true) ∧
      (overlapping.positionOf? (some ['f']) (some 5) = some 7 ∧
        ∃ file ∈ overlapping.fileAt? ['f'], ∃ body : BodyLine,
          (body.kind = .added ∨ body.kind = .context) ∧ file.rows[7]? = some body.render ∧
            lineContent (some overlapping) (some ['f']) (some 5) = body.content) ∧
        shows (some overlapping) (some ['f']) (some 8) = false ∧
          lineContent (some overlapping) (some ['f']) (some 8) = [] := by
  have isRead : read overlapping.print = .ok overlapping := by decide +kernel
  have consistent : ∀ file ∈ overlapping.fileAt? ['f'],
      ∀ hunk ∈ file.hunks, hunk.isConsistent = true := by decide
  have isPosition : overlapping.positionOf? (some ['f']) (some 5) = some 7 := by decide
  have hidden : shows (some overlapping) (some ['f']) (some 8) = false := by decide
  exact ⟨⟨isRead, consistent⟩,
    ⟨isPosition, (addressing_agrees isRead consistent).2.1 7 isPosition⟩,
    hidden, (addressing_agrees isRead consistent).2.2 hidden (by decide)⟩

end Diff

end Marginalia
