import Marginalia.Number.Total
import Marginalia.Text.Numeral

/-!
# Diffs

A diff lists changed files, a changed file lists hunks, and a hunk lists the lines that it adds,
removes, or shows for orientation.  A hunk's header declares where it stands in the old and the new
file and how many lines of each it covers; the body need not agree with that, and a hunk is
consistent when it does.
-/

namespace Marginalia

/-- The path that stands for the absence of a file on one side of a change. -/
def devNull : Text := "/dev/null".toList

/-- What a body line of a hunk does. -/
inductive LineKind where
  /-- The line is new. -/
  | added
  /-- The line is gone. -/
  | removed
  /-- The line stands in both files. -/
  | context
  /-- A remark that the file ends without a line feed. -/
  | noNewline
deriving DecidableEq, Repr

/-- The character that marks lines of a kind. -/
def LineKind.mark : LineKind → Char
  | .added => '+'
  | .removed => '-'
  | .context => ' '
  | .noNewline => '\\'

/-- The kind of line that a character marks. -/
def LineKind.ofMark? : Char → Option LineKind
  | '+' => some .added
  | '-' => some .removed
  | ' ' => some .context
  | '\\' => some .noNewline
  | _ => none

@[simp]
theorem LineKind.ofMark?_mark (kind : LineKind) : LineKind.ofMark? kind.mark = some kind := by
  cases kind <;> rfl

/-- Lines of this kind stand in the old file. -/
def LineKind.inOld : LineKind → Bool
  | .removed => true
  | .context => true
  | _ => false

/-- Lines of this kind stand in the new file. -/
def LineKind.inNew : LineKind → Bool
  | .added => true
  | .context => true
  | _ => false

/-- A body line of a hunk, without the character that marks its kind. -/
structure BodyLine where
  /-- What the line does. -/
  kind : LineKind
  /-- What the line says. -/
  content : Text
deriving DecidableEq, Repr

/-- The line as it stands in a diff. -/
def BodyLine.render (line : BodyLine) : Text :=
  line.kind.mark :: line.content

/-- A stretch of changed lines. -/
structure Hunk where
  /-- First line in the old file. -/
  oldStart : Int
  /-- Declared number of lines of the old file. -/
  oldCount : Int
  /-- First line in the new file. -/
  newStart : Int
  /-- Declared number of lines of the new file. -/
  newCount : Int
  /-- The body. -/
  lines : List BodyLine := []
  /-- What the header says after the ranges, usually the enclosing function. -/
  heading : Text := []
deriving DecidableEq, Repr

namespace Hunk

/-- The number of body lines. -/
def lineCount (hunk : Hunk) : Nat := hunk.lines.length

/-- The number of body lines of one kind. -/
def countOf (kind : LineKind) (hunk : Hunk) : Nat :=
  hunk.lines.countP (·.kind = kind)

/-- The last line of the new file that the header covers; the line before the first one when the
hunk only removes. -/
def newEnd (hunk : Hunk) : Int := hunk.newStart + hunk.newCount - 1

/-- Whether the header covers a line of the new file. -/
def covers (hunk : Hunk) (line : Int) : Bool :=
  hunk.newStart ≤ line && line ≤ hunk.newEnd

/-- Whether the body agrees with the counts that the header declares. -/
def isConsistent (hunk : Hunk) : Bool :=
  ((hunk.countOf .removed + hunk.countOf .context : Nat) : Int) = hunk.oldCount &&
    ((hunk.countOf .added + hunk.countOf .context : Nat) : Int) = hunk.newCount

theorem countP_inOld (lines : List BodyLine) :
    lines.countP (·.kind.inOld) =
      lines.countP (·.kind = .removed) + lines.countP (·.kind = .context) := by
  induction lines with
  | nil => rfl
  | cons line lines induct =>
      rw [List.countP_cons, List.countP_cons, List.countP_cons, induct]
      cases kind : line.kind <;> simp [LineKind.inOld] <;> omega

theorem countP_inNew (lines : List BodyLine) :
    lines.countP (·.kind.inNew) =
      lines.countP (·.kind = .added) + lines.countP (·.kind = .context) := by
  induction lines with
  | nil => rfl
  | cons line lines induct =>
      rw [List.countP_cons, List.countP_cons, List.countP_cons, induct]
      cases kind : line.kind <;> simp [LineKind.inNew] <;> omega

/-- A hunk is consistent when its header counts the lines of the old and of the new file. -/
theorem isConsistent_iff (hunk : Hunk) :
    hunk.isConsistent = true ↔
      ((hunk.lines.countP (·.kind.inOld) : Nat) : Int) = hunk.oldCount ∧
        ((hunk.lines.countP (·.kind.inNew) : Nat) : Int) = hunk.newCount := by
  rw [countP_inOld, countP_inNew, isConsistent, Bool.and_eq_true, decide_eq_true_eq,
    decide_eq_true_eq]
  rfl

/-- A start and a count as a header gives them. -/
def range (start count : Int) : Text :=
  Text.ofInteger start ++ ',' :: Text.ofInteger count

/-- The header line. -/
def header (hunk : Hunk) : Text :=
  "@@ -".toList ++ range hunk.oldStart hunk.oldCount ++ " +".toList ++
    range hunk.newStart hunk.newCount ++ " @@".toList ++
    if hunk.heading.isEmpty then [] else ' ' :: hunk.heading

end Hunk

/-- How a file changed. -/
inductive FileChange.Status where
  /-- There was no such file before. -/
  | added
  /-- The file is gone. -/
  | deleted
  /-- The file has another path than before. -/
  | renamed
  /-- Only the content changed. -/
  | modified
deriving DecidableEq, Repr

/-- The word for a status. -/
def FileChange.Status.word : FileChange.Status → Text
  | .added => "added".toList
  | .deleted => "deleted".toList
  | .renamed => "renamed".toList
  | .modified => "modified".toList

/-- The change of one file. -/
structure FileChange where
  /-- The path before the change, where the diff names one. -/
  oldPath : Option Text := none
  /-- The path after the change, where the diff names one. -/
  newPath : Option Text := none
  /-- The changed stretches. -/
  hunks : List Hunk := []
deriving DecidableEq, Repr

/-- Whether a side of a change names no file. -/
def isNoFile (path : Option Text) : Bool :=
  match path with
  | none => true
  | some path => path.isEmpty || path = devNull

namespace FileChange

/-- There was no file before. -/
def isNew (file : FileChange) : Bool := isNoFile file.oldPath

/-- There is no file afterwards. -/
def isDeleted (file : FileChange) : Bool := isNoFile file.newPath

/-- The file moved. -/
def isRenamed (file : FileChange) : Bool :=
  file.oldPath ≠ file.newPath && !file.isNew && !file.isDeleted

/-- The path that a reader would recognise: the new one unless the file is gone. -/
def effectivePath (file : FileChange) : Option Text :=
  if file.isDeleted then
    if file.oldPath = some devNull then none else file.oldPath
  else file.newPath

/-- The number of body lines of all hunks. -/
def lineCount (file : FileChange) : Nat :=
  total (file.hunks.map Hunk.lineCount)

/-- Whether the file is known under a path, before or after the change. -/
def isAt (file : FileChange) (path : Text) : Bool :=
  some path = file.newPath || some path = file.oldPath

/-- How the file changed. -/
def status (file : FileChange) : Status :=
  if file.isNew then .added
  else if file.isDeleted then .deleted
  else if file.isRenamed then .renamed
  else .modified

/-- The same change with a single hunk. -/
def only (file : FileChange) (hunk : Hunk) : FileChange :=
  { file with hunks := [hunk] }

@[simp]
theorem lineCount_only (file : FileChange) (hunk : Hunk) :
    (file.only hunk).lineCount = hunk.lineCount := by
  simp [only, lineCount]

end FileChange

/-- The change of several files. -/
structure Diff where
  /-- The changed files. -/
  files : List FileChange := []
deriving DecidableEq, Repr

namespace Diff

/-- Whether the diff has no hunk. -/
def isEmpty (diff : Diff) : Bool :=
  diff.files.all (·.hunks.isEmpty)

/-- The number of hunks of all files. -/
def hunkCount (diff : Diff) : Nat :=
  total (diff.files.map (·.hunks.length))

/-- The number of body lines of all files. -/
def lineCount (diff : Diff) : Nat :=
  total (diff.files.map FileChange.lineCount)

/-- The first file that is known under a path, before or after the change. -/
def fileAt? (diff : Diff) (path : Text) : Option FileChange :=
  diff.files.find? (·.isAt path)

/-- The paths of the files that are still there after the change. -/
def changedPaths (diff : Diff) : List Text :=
  diff.files.filterMap fun file => if file.isDeleted then none else file.newPath

/-- A word or two on the size of the diff. -/
def summary (diff : Diff) : Text :=
  if diff.isEmpty then "empty diff".toList
  else
    Text.ofInteger diff.files.length ++ " file(s), ".toList ++
      Text.ofInteger diff.hunkCount ++ " hunk(s), ".toList ++
      Text.ofInteger diff.lineCount ++ " line(s)".toList

@[simp]
theorem lineCount_nil : (⟨[]⟩ : Diff).lineCount = 0 := rfl

theorem lineCount_append (front back : List FileChange) :
    (⟨front ++ back⟩ : Diff).lineCount =
      (⟨front⟩ : Diff).lineCount + (⟨back⟩ : Diff).lineCount := by
  simp [lineCount]

theorem isEmpty_iff_hunkCount_eq_zero (diff : Diff) : diff.isEmpty = true ↔ diff.hunkCount = 0 := by
  simp [isEmpty, hunkCount, total_eq_zero_iff]

/-- A file that is found under a path is one of the files, and is known under that path. -/
theorem mem_files_of_fileAt? {diff : Diff} {path : Text} {file : FileChange}
    (found : diff.fileAt? path = some file) : file ∈ diff.files ∧ file.isAt path = true := by
  have answers := List.find?_some found
  exact ⟨List.mem_of_find?_eq_some found, answers⟩

end Diff

end Marginalia
