import Mathlib.Tactic.Common
import Marginalia.Diff.Position
import Marginalia.Diff.Reader

/-!
# Outlines

The outline of a diff is what is left of it when its body lines say nothing: the files with their
paths, the hunks with their ranges and headings, and the kinds of the body lines.  Grouping items
and collecting entries never look at contents, so both keep outlines; and the positions of a file
are those of its outline.
-/

namespace Marginalia

/-- The line without what it says. -/
def BodyLine.outline (line : BodyLine) : BodyLine :=
  { line with content := [] }

/-- The hunk without what its lines say. -/
def Hunk.outline (hunk : Hunk) : Hunk :=
  { hunk with lines := hunk.lines.map BodyLine.outline }

/-- The file without what its lines say. -/
def FileChange.outline (file : FileChange) : FileChange :=
  { file with hunks := file.hunks.map Hunk.outline }

/-- The diff without what its lines say. -/
def Diff.outline (diff : Diff) : Diff :=
  ⟨diff.files.map FileChange.outline⟩

/-- Lines of the same kinds have the same outlines. -/
theorem BodyLine.map_outline_congr {left right : List BodyLine}
    (sameKinds : left.map (·.kind) = right.map (·.kind)) :
    left.map outline = right.map outline := by
  have outlines := congrArg (List.map fun kind => (⟨kind, []⟩ : BodyLine)) sameKinds
  rw [List.map_map, List.map_map] at outlines
  exact outlines

/-! ## Positions -/

/-- The shown line without what it says. -/
def ShownLine.outline (shown : ShownLine) : ShownLine :=
  { shown with content := [] }

theorem Hunk.shownAfter_outline (hunk : Hunk) (position : Nat) (number : Int)
    (lines : List BodyLine) :
    hunk.outline.shownAfter position number (lines.map BodyLine.outline) =
      (hunk.shownAfter position number lines).map ShownLine.outline := by
  induction lines generalizing position number with
  | nil => rfl
  | cons line lines induct =>
      rw [List.map_cons, shownAfter, shownAfter, induct, induct]
      by_cases inNew : line.kind.inNew = true
      · rw [if_pos inNew, if_pos (show line.outline.kind.inNew = true from inNew)]
        rfl
      · rw [if_neg inNew, if_neg (show ¬line.outline.kind.inNew = true from inNew)]

theorem shownFrom_outline (position : Nat) (hunks : List Hunk) :
    shownFrom position (hunks.map Hunk.outline) =
      (shownFrom position hunks).map ShownLine.outline := by
  induction hunks generalizing position with
  | nil => rfl
  | cons hunk hunks induct =>
      have sameCount : hunk.outline.lineCount = hunk.lineCount := by
        simp [Hunk.outline, Hunk.lineCount]
      rw [List.map_cons, shownFrom, shownFrom, List.map_append, sameCount, induct,
        ← Hunk.shownAfter_outline]
      rfl

/-- What lines say does not move them. -/
theorem FileChange.positions_outline (file : FileChange) :
    file.outline.positions = file.positions := by
  have same : file.outline.shown = file.shown.map ShownLine.outline :=
    shownFrom_outline 0 file.hunks
  rw [positions, same, List.filter_map, List.foldl_map]
  rfl

/-! ## Grouping and collecting -/

namespace Diff

/-- The item without what its line says, if it is body. -/
def Item.outline : Item → Item
  | .body line => .body line.outline
  | item => item

/-- The entry without what its lines say, if it is a hunk. -/
def Entry.outline : Entry → Entry
  | .hunk part => .hunk part.outline
  | entry => entry

/-- The file under a cursor without what its lines say. -/
def Cursor.outline : Cursor → Cursor
  | .listed file => .listed file.outline
  | cursor => cursor

theorem groupItems_outline (items : List Item) :
    groupItems (items.map Item.outline) =
      ((groupItems items).1.map BodyLine.outline, (groupItems items).2.map Entry.outline) := by
  induction items with
  | nil => rfl
  | cons item items induct =>
      cases item <;> simp [Item.outline, groupItems, induct, Entry.outline, Hunk.outline]

theorem collect_outline (cursor : Cursor) (entries : List Entry) :
    collect cursor.outline (entries.map Entry.outline) =
      (collect cursor entries).map FileChange.outline := by
  have finished (cursor : Cursor) :
      cursor.outline.toList = cursor.toList.map FileChange.outline := by
    cases cursor <;> rfl
  induction entries generalizing cursor with
  | nil => exact finished cursor
  | cons entry entries induct =>
      cases entry with
      | oldSide path =>
          have later := induct (.announced path)
          rw [Cursor.outline] at later
          · simp [Entry.outline, collect, finished, later]
          · simp
      | newSide path =>
          have later (oldPath : Option Text) :=
            induct (.listed { oldPath, newPath := some path })
          simp only [Cursor.outline, FileChange.outline, List.map_nil] at later
          cases cursor <;>
            simp [Entry.outline, Cursor.outline, collect, later, Cursor.toList]
      | hunk part =>
          have later := induct (.listed (cursor.withHunk part))
          have same : (Cursor.listed (cursor.withHunk part)).outline =
              .listed (cursor.outline.withHunk part.outline) := by
            cases cursor <;> simp [Cursor.outline, Cursor.withHunk, FileChange.outline]
          rw [same] at later
          simpa [Entry.outline, collect] using later

end Diff

end Marginalia
