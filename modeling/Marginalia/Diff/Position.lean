import Marginalia.Diff.Basic
import Marginalia.Missing
import Marginalia.Table
import Marginalia.Text.Blank

/-!
# Positions

A review service accepts a remark only on a line that the diff shows, and some name that line by its
position: the rows of a file are counted from one, starting below the header of its first hunk.
Every body line takes a row, and so does the header of every later hunk; a removed line takes a row
and can never be addressed.

Whether a line may be addressed is decided by the ranges that headers declare; positions are
counted along the bodies.  On a hunk that agrees with its header both give the same lines.
-/

namespace Marginalia

/-- A line of the new file as a diff shows it. -/
structure ShownLine where
  /-- Its number in the new file. -/
  number : Int
  /-- Its row in the diff of the file. -/
  position : Nat
  /-- Whether the header of its hunk covers it. -/
  isCovered : Bool
  /-- What it says. -/
  content : Text
deriving DecidableEq, Repr

/-- The lines of the new file among body lines, where the first body line stands one row below
`position` and the next line of the new file has the given number. -/
def Hunk.shownAfter (hunk : Hunk) : Nat → Int → List BodyLine → List ShownLine
  | _, _, [] => []
  | position, number, line :: lines =>
      if line.kind.inNew then
        ⟨number, position + 1, hunk.covers number, line.content⟩ ::
          hunk.shownAfter (position + 1) (number + 1) lines
      else hunk.shownAfter (position + 1) number lines

/-- The lines of the new file that hunks show, where the first body line stands one row below
`position`. -/
def shownFrom : Nat → List Hunk → List ShownLine
  | _, [] => []
  | position, hunk :: hunks =>
      hunk.shownAfter position hunk.newStart hunk.lines ++
        shownFrom (position + hunk.lineCount + 1) hunks

namespace FileChange

/-- The lines of the new file that the diff of the file shows. -/
def shown (file : FileChange) : List ShownLine :=
  shownFrom 0 file.hunks

/-- The position of every addressable line.  Of a line that is shown twice the last position is
kept. -/
def positions (file : FileChange) : Table Int Nat :=
  (file.shown.filter (·.isCovered)).foldl
    (fun table line => Table.put line.number line.position table) []

/-- The addressable lines with their positions, in ascending order of lines. -/
def positionList (file : FileChange) : List (Int × Nat) :=
  file.positions.mergeSort fun left right => left.1 ≤ right.1

/-- What a line of the new file says, where it is shown. -/
def contentAt? (file : FileChange) (line : Int) : Option Text :=
  (file.shown.reverse.find? (·.number = line)).map (·.content)

end FileChange

/-- Why a line cannot carry a remark. -/
inductive Misplacement where
  /-- There is no diff. -/
  | noDiff
  /-- No file is named. -/
  | noPath
  /-- The line is no line number. -/
  | badLine (line : Option Int)
  /-- The file is not part of the diff. -/
  | absent (path : Text)
  /-- The file is gone after the change. -/
  | deleted (path : Text)
  /-- The line lies outside every hunk of the file. -/
  | outside (line : Int) (path : Text)
deriving DecidableEq, Repr

/-- A misplacement in words. -/
def Misplacement.message : Misplacement → Text
  | .noDiff => "no diff".toList
  | .noPath => "no file path".toList
  | .badLine line => "invalid line number ".toList ++ (line.map Text.ofInteger).getD "None".toList
  | .absent path => path ++ " is not part of the diff".toList
  | .deleted path => path ++ " is deleted".toList
  | .outside line path =>
      "line ".toList ++ Text.ofInteger line ++ " is outside every hunk of ".toList ++ path

/-- Whether a misplacement can be put into words: a line number that is too long cannot. -/
def Misplacement.isWritable : Misplacement → Bool
  | .badLine line => line.all Text.isWritable
  | .outside line _ => Text.isWritable line
  | _ => true

namespace Diff

/-- Why a line of a file cannot carry a remark, if it cannot. -/
def misplacement? (diff : Option Diff) (path : Option Text) (line : Option Int) :
    Option Misplacement :=
  match diff, path, line with
  | none, _, _ => some .noDiff
  | some _, none, _ => some .noPath
  | some diff, some path, line =>
      if Text.isBlank path then some .noPath
      else
        match line with
        | none => some (.badLine none)
        | some number =>
            if number ≤ 0 then some (.badLine number)
            else
              match diff.fileAt? path with
              | none => some (.absent path)
              | some file =>
                  if file.isDeleted then some (.deleted path)
                  else if file.hunks.any (·.covers number) then none
                  else some (.outside number path)

/-- Whether a line of a file can carry a remark. -/
def shows (diff : Option Diff) (path : Option Text) (line : Option Int) : Bool :=
  (misplacement? diff path line).isNone

/-- The file that is known under a path and is still there after the change. -/
def survivorAt? (diff : Diff) (path : Text) : Option FileChange :=
  (diff.fileAt? path).filter (!·.isDeleted)

@[simp]
theorem survivorAt?_eq_some_iff (diff : Diff) (path : Text) (file : FileChange) :
    diff.survivorAt? path = some file ↔
      diff.fileAt? path = some file ∧ file.isDeleted = false := by
  simp [survivorAt?, Option.filter_eq_some_iff]

/-- The place that a path and a line number ask about, when they ask about any. -/
def askedPlace? (path : Option Text) (line : Option Int) : Option (Text × Int) :=
  match path, line with
  | some path, some line => if path.isEmpty || line ≤ 0 then none else some (path, line)
  | _, _ => none

/-- The position of a line of a file. -/
def positionOf? (diff : Diff) (path : Option Text) (line : Option Int) : Option Nat :=
  match askedPlace? path line with
  | none => none
  | some (path, line) =>
      (diff.survivorAt? path).bind fun file => Table.get? line file.positions

/-- The position of a line of a file in a diff that has to be there. -/
def positionIn (diff : Option Diff) (path : Option Text) (line : Option Int) :
    Except Missing (Option Nat) :=
  (given .diff diff).map fun diff => diff.positionOf? path line

/-- What a line of a file says; nothing where it is not shown. -/
def lineContent (diff : Option Diff) (path : Option Text) (line : Option Int) : Text :=
  match diff, path, line with
  | some diff, some path, some line =>
      if path.isEmpty then []
      else ((diff.survivorAt? path).bind (·.contentAt? line)).getD []
  | _, _, _ => []

end Diff

/-- Positions of one diff, with those of the files that were already asked about. -/
structure PositionMap where
  /-- The diff that is asked about. -/
  diff : Diff
  /-- The positions of the files that were asked about. -/
  known : Table Text (Table Int Nat) := []

namespace PositionMap

/-- A map that has not been asked yet. -/
def ofDiff (diff : Option Diff) : Except Missing PositionMap :=
  (given .diff diff).map fun diff => { diff }

/-- The positions of a file, and the map that knows them. -/
def positionsAt (map : PositionMap) (path : Text) : Option (Table Int Nat) × PositionMap :=
  match Table.get? path map.known with
  | some positions => (some positions, map)
  | none =>
      match map.diff.survivorAt? path with
      | none => (none, map)
      | some file =>
          (some file.positions, { map with known := Table.put path file.positions map.known })

/-- The position of a line of a file, and the map after the question. -/
def ask (map : PositionMap) (path : Option Text) (line : Option Int) :
    Option Nat × PositionMap :=
  match Diff.askedPlace? path line with
  | none => (none, map)
  | some (path, line) =>
      let (positions, after) := map.positionsAt path
      (positions.bind (Table.get? line), after)

/-- The answers to a sequence of questions. -/
def askAll (map : PositionMap) : List (Option Text × Option Int) → List (Option Nat)
  | [] => []
  | (path, line) :: questions =>
      let (answer, after) := map.ask path line
      answer :: after.askAll questions

end PositionMap

end Marginalia
