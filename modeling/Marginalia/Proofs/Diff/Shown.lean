import Mathlib.Data.List.Basic
import Mathlib.Tactic.Common
import Marginalia.Diff.Position
import Marginalia.Diff.Printer

/-!
# Shown lines

A hunk shows the line of the new file with a given number exactly when its header covers the number
and its body is long enough; on a consistent hunk the second follows from the first.  The row of a
shown line is its row in the printed file, and where several hunks show one number the last of them
decides both its position and its content.
-/

namespace Marginalia

open Text

/-- Whatever is put under a key last is found under it. -/
theorem Table.get?_foldl_put {Key Entry Item : Type} [DecidableEq Key] (keyOf : Item → Key)
    (entryOf : Item → Entry) (key : Key) (items : List Item) (table : Table Key Entry) :
    Table.get? key
        (items.foldl (fun table item => Table.put (keyOf item) (entryOf item) table) table) =
      ((items.reverse.find? (keyOf · = key)).map entryOf).or (Table.get? key table) := by
  induction items generalizing table with
  | nil => simp
  | cons item items induct =>
      rw [List.foldl_cons, induct, List.reverse_cons, List.find?_append, List.find?_singleton]
      cases found : items.reverse.find? (keyOf · = key) with
      | some other => simp
      | none =>
          by_cases same : keyOf item = key
          · simp [same]
          · simp [same, Table.get?_put_of_ne (Ne.symm same)]

namespace Hunk

/-- The number of lines of the new file in the body. -/
def shownCount (hunk : Hunk) : Nat :=
  hunk.lines.countP (·.kind.inNew)

/-- Whether the header covers a line of the new file and the body reaches it. -/
def showsLine (hunk : Hunk) (line : Int) : Bool :=
  hunk.covers line && decide (line < hunk.newStart + hunk.shownCount)

theorem covers_iff (hunk : Hunk) (line : Int) :
    hunk.covers line = true ↔ hunk.newStart ≤ line ∧ line ≤ hunk.newEnd := by
  simp [covers]

theorem showsLine_iff (hunk : Hunk) (line : Int) :
    hunk.showsLine line = true ↔
      hunk.covers line = true ∧ line < hunk.newStart + hunk.shownCount := by
  simp [showsLine]

theorem shownCount_of_isConsistent {hunk : Hunk} (consistent : hunk.isConsistent = true) :
    (hunk.shownCount : Int) = hunk.newCount :=
  ((isConsistent_iff hunk).mp consistent).2

/-- On a consistent hunk every line that the header covers is shown. -/
theorem showsLine_eq_covers {hunk : Hunk} (consistent : hunk.isConsistent = true) (line : Int) :
    hunk.showsLine line = hunk.covers line := by
  have count := shownCount_of_isConsistent consistent
  rw [Bool.eq_iff_iff, showsLine_iff, covers_iff, newEnd]
  omega

theorem isCovered_of_mem_shownAfter {hunk : Hunk} {position : Nat} {number : Int}
    {lines : List BodyLine} :
    ∀ shown ∈ hunk.shownAfter position number lines,
      shown.isCovered = hunk.covers shown.number := by
  induction lines generalizing position number with
  | nil => simp [shownAfter]
  | cons line lines induct =>
      rw [shownAfter]
      split
      · exact List.forall_mem_cons.mpr ⟨rfl, induct⟩
      · exact induct

/-- The numbers of the lines that are shown are consecutive. -/
theorem exists_mem_shownAfter_iff (hunk : Hunk) (position : Nat) (number line : Int)
    (lines : List BodyLine) :
    (∃ shown ∈ hunk.shownAfter position number lines, shown.number = line) ↔
      number ≤ line ∧ line < number + (lines.countP (·.kind.inNew) : Nat) := by
  induction lines generalizing position number with
  | nil =>
      simp [shownAfter]
  | cons body lines induct =>
      rw [shownAfter, List.countP_cons]
      by_cases shown : body.kind.inNew = true
      · simp only [if_pos shown, List.exists_mem_cons_iff, induct]
        omega
      · simp only [if_neg shown, induct, Nat.add_zero]

/-- A shown line stands in its row of the body. -/
theorem getElem?_of_mem_shownAfter {hunk : Hunk} {position : Nat} {number : Int}
    {lines : List BodyLine} {shown : ShownLine}
    (isShown : shown ∈ hunk.shownAfter position number lines) :
    ∃ index body, shown.position = position + 1 + index ∧ lines[index]? = some body ∧
      body.kind.inNew = true ∧ body.content = shown.content := by
  induction lines generalizing position number with
  | nil => simp [shownAfter] at isShown
  | cons line lines induct =>
      have later (inRest : ∃ number, shown ∈ hunk.shownAfter (position + 1) number lines) :
          ∃ index body, shown.position = position + 1 + index ∧
            (line :: lines)[index]? = some body ∧
              body.kind.inNew = true ∧ body.content = shown.content := by
        obtain ⟨number, inRest⟩ := inRest
        obtain ⟨index, body, row, found, facts⟩ := induct inRest
        exact ⟨index + 1, body, by omega, found, facts⟩
      rw [shownAfter] at isShown
      split at isShown
      case isTrue inNew =>
        rcases List.mem_cons.mp isShown with rfl | inRest
        · exact ⟨0, line, rfl, rfl, inNew, rfl⟩
        · exact later ⟨_, inRest⟩
      case isFalse => exact later ⟨_, isShown⟩

end Hunk

theorem exists_mem_shownFrom_iff (position : Nat) (hunks : List Hunk) (line : Int) :
    (∃ shown ∈ shownFrom position hunks, shown.isCovered = true ∧ shown.number = line) ↔
      ∃ hunk ∈ hunks, hunk.showsLine line = true := by
  induction hunks generalizing position with
  | nil => simp [shownFrom]
  | cons hunk hunks induct =>
      have here : (∃ shown ∈ hunk.shownAfter position hunk.newStart hunk.lines,
          shown.isCovered = true ∧ shown.number = line) ↔ hunk.showsLine line = true := by
        rw [Hunk.showsLine_iff]
        constructor
        · rintro ⟨shown, isShown, covered, rfl⟩
          rw [Hunk.isCovered_of_mem_shownAfter shown isShown] at covered
          exact ⟨covered, ((Hunk.exists_mem_shownAfter_iff ..).mp ⟨shown, isShown, rfl⟩).2⟩
        · rintro ⟨covered, reached⟩
          obtain ⟨shown, isShown, rfl⟩ := (Hunk.exists_mem_shownAfter_iff hunk position
            hunk.newStart line hunk.lines).mpr ⟨((Hunk.covers_iff hunk line).mp covered).1, reached⟩
          have isCovered := Hunk.isCovered_of_mem_shownAfter shown isShown
          exact ⟨shown, isShown, isCovered.trans covered, rfl⟩
      rw [shownFrom]
      simp only [List.mem_append, or_and_right, exists_or, here, induct, List.exists_mem_cons_iff]

/-- The header of a consistent hunk covers all lines that the body shows. -/
theorem isCovered_of_mem_shownFrom {position : Nat} {hunks : List Hunk}
    (consistent : ∀ hunk ∈ hunks, hunk.isConsistent = true) :
    ∀ shown ∈ shownFrom position hunks, shown.isCovered = true := by
  induction hunks generalizing position with
  | nil => simp [shownFrom]
  | cons hunk hunks induct =>
      obtain ⟨first, others⟩ := List.forall_mem_cons.mp consistent
      rw [shownFrom, List.forall_mem_append]
      refine ⟨fun shown isShown => ?_, induct others⟩
      have bounds := (Hunk.exists_mem_shownAfter_iff ..).mp ⟨shown, isShown, rfl⟩
      have count := Hunk.shownCount_of_isConsistent first
      rw [Hunk.shownCount] at count
      rw [Hunk.isCovered_of_mem_shownAfter shown isShown, Hunk.covers_iff, Hunk.newEnd]
      omega

/-- A shown line stands in its row below the header of the first hunk. -/
theorem getElem?_of_mem_shownFrom {position : Nat} {hunks : List Hunk} {shown : ShownLine}
    (isShown : shown ∈ shownFrom position hunks) :
    ∃ (index : Nat) (body : BodyLine), shown.position = position + index ∧
      (hunks.flatMap Hunk.rendered)[index]? = some body.render ∧
        body.kind.inNew = true ∧ body.content = shown.content := by
  induction hunks generalizing position with
  | nil => simp [shownFrom] at isShown
  | cons hunk hunks induct =>
      have length : hunk.rendered.length = hunk.lineCount + 1 := by
        simp [Hunk.rendered, Hunk.lineCount]
      rw [shownFrom, List.mem_append] at isShown
      rw [List.flatMap_cons]
      rcases isShown with inHunk | inRest
      · obtain ⟨index, body, row, found, facts⟩ := Hunk.getElem?_of_mem_shownAfter inHunk
        have inside : hunk.rendered[index + 1]? = some body.render := by
          simp [Hunk.rendered, found]
        have bound : index + 1 < hunk.rendered.length := (List.getElem?_eq_some_iff.mp inside).1
        refine ⟨index + 1, body, by omega, ?_, facts⟩
        rw [List.getElem?_append_left bound, inside]
      · obtain ⟨index, body, row, found, facts⟩ := induct inRest
        refine ⟨hunk.lineCount + 1 + index, body, by omega, ?_, facts⟩
        rw [List.getElem?_append_right (by omega), length, Nat.add_sub_cancel_left, found]

namespace FileChange

variable (file : FileChange)

theorem get?_positions (line : Int) :
    Table.get? line file.positions =
      ((file.shown.filter (·.isCovered)).reverse.find? (·.number = line)).map (·.position) := by
  rw [positions, Table.get?_foldl_put]
  simp [Table.get?]

/-- A line has a position exactly when some hunk shows it. -/
theorem isSome_get?_positions (line : Int) :
    (Table.get? line file.positions).isSome = true ↔
      ∃ hunk ∈ file.hunks, hunk.showsLine line = true := by
  rw [get?_positions, ← exists_mem_shownFrom_iff 0, Option.isSome_map, List.find?_isSome]
  simp [shown, and_assoc]

/-- On consistent hunks every shown line is covered, so the last hunk that shows a line decides both
its position and its content. -/
theorem get?_positions_of_isConsistent
    (consistent : ∀ hunk ∈ file.hunks, hunk.isConsistent = true) (line : Int) :
    Table.get? line file.positions =
      (file.shown.reverse.find? (·.number = line)).map (·.position) := by
  have all : file.shown.filter (·.isCovered) = file.shown :=
    List.filter_eq_self.mpr (isCovered_of_mem_shownFrom consistent)
  rw [get?_positions, all]

end FileChange

end Marginalia
