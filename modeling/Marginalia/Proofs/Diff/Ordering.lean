import Mathlib.Data.List.Chain
import Mathlib.Data.List.Nodup
import Mathlib.Tactic.Common
import Marginalia.Proofs.Diff.Addressing

/-!
# The order of positions

Rows are counted on across the hunks of a file, while every hunk starts with a line number of its
own.  So shown lines stand in the order of their positions whatever the headers declare, and in the
order of their numbers where each hunk ends before the next one starts.
-/

namespace Marginalia

namespace Hunk

variable {hunk : Hunk}

theorem position_of_mem_shownAfter {position : Nat} {number : Int} {lines : List BodyLine} :
    ∀ shown ∈ hunk.shownAfter position number lines,
      position < shown.position ∧ shown.position ≤ position + lines.length := by
  induction lines generalizing position number with
  | nil => simp [shownAfter]
  | cons line lines induct =>
      have later (number : Int) : ∀ shown ∈ hunk.shownAfter (position + 1) number lines,
          position < shown.position ∧ shown.position ≤ position + (lines.length + 1) := by
        intro shown isShown
        have bounds := induct shown isShown
        omega
      rw [shownAfter, List.length_cons]
      split
      · refine List.forall_mem_cons.mpr ⟨?_, later (number + 1)⟩
        exact ⟨Nat.lt_succ_self position, Nat.add_le_add_left (Nat.le_add_left 1 _) position⟩
      · exact later number

theorem number_of_mem_shownAfter {position : Nat} {number : Int} {lines : List BodyLine}
    {shown : ShownLine} (isShown : shown ∈ hunk.shownAfter position number lines) :
    number ≤ shown.number ∧ shown.number < number + (lines.countP (·.kind.inNew) : Nat) :=
  (exists_mem_shownAfter_iff hunk position number shown.number lines).mp ⟨shown, isShown, rfl⟩

/-- Down a hunk positions and numbers go up together. -/
theorem pairwise_shownAfter (hunk : Hunk) (position : Nat) (number : Int) (lines : List BodyLine) :
    (hunk.shownAfter position number lines).Pairwise fun upper lower =>
      upper.position < lower.position ∧ upper.number < lower.number := by
  induction lines generalizing position number with
  | nil => exact .nil
  | cons line lines induct =>
      rw [shownAfter]
      split
      · refine .cons ?_ (induct (position + 1) (number + 1))
        intro shown isShown
        have row := (position_of_mem_shownAfter shown isShown).1
        have count := (number_of_mem_shownAfter isShown).1
        exact ⟨row, Int.lt_of_add_one_le count⟩
      · exact induct (position + 1) number

/-- The header of a consistent hunk ends where its body ends. -/
theorem newEnd_of_isConsistent (consistent : hunk.isConsistent = true) :
    hunk.newEnd = hunk.newStart + (hunk.shownCount : Int) - 1 := by
  rw [newEnd, shownCount_of_isConsistent consistent]

end Hunk

/-! ## Rows across hunks -/

theorem position_of_mem_shownFrom {position : Nat} {hunks : List Hunk} :
    ∀ shown ∈ shownFrom position hunks,
      position < shown.position ∧
        shown.position < position + (total (hunks.map Hunk.lineCount) + hunks.length) := by
  induction hunks generalizing position with
  | nil => simp [shownFrom]
  | cons hunk hunks induct =>
      rw [shownFrom, List.forall_mem_append, List.map_cons, total_cons, List.length_cons]
      constructor
      · intro shown isShown
        have bounds := Hunk.position_of_mem_shownAfter shown isShown
        rw [← Hunk.lineCount] at bounds
        omega
      · intro shown isShown
        have bounds := induct shown isShown
        omega

theorem pairwise_position_shownFrom (position : Nat) (hunks : List Hunk) :
    (shownFrom position hunks).Pairwise fun upper lower => upper.position < lower.position := by
  induction hunks generalizing position with
  | nil => exact .nil
  | cons hunk hunks induct =>
      rw [shownFrom, List.pairwise_append]
      refine ⟨(hunk.pairwise_shownAfter _ _ _).imp And.left, induct _, ?_⟩
      intro upper isUpper lower isLower
      have above := (Hunk.position_of_mem_shownAfter upper isUpper).2
      have below := (position_of_mem_shownFrom lower isLower).1
      rw [← Hunk.lineCount] at above
      omega

/-- Each hunk ends before the next one starts. -/
def AreApart (hunks : List Hunk) : Prop :=
  hunks.IsChain fun hunk next => hunk.newEnd < next.newStart

/-- Of consistent hunks that stand apart, none shows a line above the start of the first. -/
theorem newStart_le_of_mem_shownFrom {position : Nat} {hunk : Hunk} {hunks : List Hunk}
    (consistent : ∀ other ∈ hunk :: hunks, other.isConsistent = true)
    (apart : AreApart (hunk :: hunks)) :
    ∀ shown ∈ shownFrom position (hunk :: hunks), hunk.newStart ≤ shown.number := by
  induction hunks generalizing position hunk with
  | nil =>
      rw [shownFrom, shownFrom, List.append_nil]
      exact fun shown isShown => (Hunk.number_of_mem_shownAfter isShown).1
  | cons next hunks induct =>
      obtain ⟨first, others⟩ := List.forall_mem_cons.mp consistent
      obtain ⟨gap, rest⟩ := List.isChain_cons_cons.mp apart
      rw [shownFrom, List.forall_mem_append]
      refine ⟨fun shown isShown => (Hunk.number_of_mem_shownAfter isShown).1, ?_⟩
      intro shown isShown
      have bound := induct others rest shown isShown
      have stop := Hunk.newEnd_of_isConsistent first
      omega

/-- Down consistent hunks that stand apart positions and numbers go up together. -/
theorem pairwise_shownFrom {position : Nat} {hunks : List Hunk}
    (consistent : ∀ hunk ∈ hunks, hunk.isConsistent = true) (apart : AreApart hunks) :
    (shownFrom position hunks).Pairwise fun upper lower =>
      upper.position < lower.position ∧ upper.number < lower.number := by
  induction hunks generalizing position with
  | nil => exact .nil
  | cons hunk hunks induct =>
      obtain ⟨first, others⟩ := List.forall_mem_cons.mp consistent
      rw [shownFrom, List.pairwise_append]
      refine ⟨hunk.pairwise_shownAfter _ _ _, induct others apart.tail, ?_⟩
      intro upper isUpper lower isLower
      have above := (Hunk.position_of_mem_shownAfter upper isUpper).2
      have below := (position_of_mem_shownFrom lower isLower).1
      rw [← Hunk.lineCount] at above
      refine ⟨by omega, ?_⟩
      cases hunks with
      | nil => simp [shownFrom] at isLower
      | cons next hunks =>
          -- The lower line may stand in any later hunk, and none of them starts above the next one.
          have gap : hunk.newEnd < next.newStart := (List.isChain_cons_cons.mp apart).1
          calc
            upper.number ≤ hunk.newEnd := by
              rw [Hunk.newEnd_of_isConsistent first]
              exact Int.le_sub_one_of_lt (Hunk.number_of_mem_shownAfter isUpper).2
            _ < next.newStart := gap
            _ ≤ lower.number := newStart_le_of_mem_shownFrom others apart.tail lower isLower

theorem position_lt_of_number_lt {lines : List ShownLine}
    (ordered : lines.Pairwise fun upper lower =>
      upper.position < lower.position ∧ upper.number < lower.number)
    {left right : ShownLine} (isLeft : left ∈ lines) (isRight : right ∈ lines)
    (smaller : left.number < right.number) : left.position < right.position := by
  obtain ⟨leftRow, leftBound, rfl⟩ := List.getElem_of_mem isLeft
  obtain ⟨rightRow, rightBound, rfl⟩ := List.getElem_of_mem isRight
  have increasing := List.pairwise_iff_getElem.mp ordered
  rcases Nat.lt_trichotomy leftRow rightRow with above | rfl | below
  · exact (increasing leftRow rightRow leftBound rightBound above).1
  · exact absurd smaller (Int.lt_irrefl _)
  · have larger := (increasing rightRow leftRow rightBound leftBound below).2
    exact absurd smaller (Int.not_lt.mpr (Int.le_of_lt larger))

namespace FileChange

variable {file : FileChange}

/-! ## Positions -/

theorem exists_shown_of_get?_positions {line : Int} {position : Nat}
    (found : Table.get? line file.positions = some position) :
    ∃ shown ∈ file.shown, shown.number = line ∧ shown.position = position := by
  rw [get?_positions, Option.map_eq_some_iff] at found
  obtain ⟨shown, last, rfl⟩ := found
  have isCovered := List.mem_reverse.mp (List.mem_of_find?_eq_some last)
  have isLine := List.find?_some last
  exact ⟨shown, (List.mem_filter.mp isCovered).1, of_decide_eq_true isLine, rfl⟩

theorem line_unique_of_get?_positions {line other : Int} {position : Nat}
    (found : Table.get? line file.positions = some position)
    (otherFound : Table.get? other file.positions = some position) : line = other := by
  obtain ⟨shown, isShown, rfl, rfl⟩ := exists_shown_of_get?_positions found
  obtain ⟨again, isAgain, rfl, same⟩ := exists_shown_of_get?_positions otherFound
  have distinct : (file.shown.map (·.position)).Nodup := by
    rw [List.Nodup, List.pairwise_map]
    exact (pairwise_position_shownFrom 0 file.hunks).imp Nat.ne_of_lt
  rw [List.inj_on_of_nodup_map distinct isShown isAgain same.symm]

theorem exists_covers_of_get?_positions {line : Int} {position : Nat}
    (found : Table.get? line file.positions = some position) :
    ∃ hunk ∈ file.hunks, hunk.covers line = true := by
  have positioned : (Table.get? line file.positions).isSome = true := found ▸ rfl
  obtain ⟨hunk, isHunk, shows⟩ := (file.isSome_get?_positions line).mp positioned
  exact ⟨hunk, isHunk, ((hunk.showsLine_iff line).mp shows).1⟩

/-- No two lines have one position, positions keep to the rows of the file, and only lines that a
header covers have one.  Where consistent hunks stand apart, just the lines that the headers cover
have positions, in the order of the lines. -/
theorem positions_distinct_and_ordered (file : FileChange) :
    (∀ line other position, Table.get? line file.positions = some position →
        Table.get? other file.positions = some position → line = other) ∧
      (∀ line position, Table.get? line file.positions = some position →
        (1 ≤ position ∧ position ≤ file.lineCount + file.hunks.length - 1) ∧
          ∃ hunk ∈ file.hunks, hunk.covers line = true) ∧
      ((∀ hunk ∈ file.hunks, hunk.isConsistent = true) → AreApart file.hunks →
        (∀ line, (Table.get? line file.positions).isSome = true ↔
          ∃ hunk ∈ file.hunks, hunk.covers line = true) ∧
        ∀ line other position otherPosition, Table.get? line file.positions = some position →
          Table.get? other file.positions = some otherPosition → line < other →
            position < otherPosition) := by
  refine ⟨fun _ _ _ => line_unique_of_get?_positions, ?_, ?_⟩
  · intro line position found
    obtain ⟨shown, isShown, -, rfl⟩ := exists_shown_of_get?_positions found
    have bounds := position_of_mem_shownFrom shown isShown
    rw [← lineCount] at bounds
    exact ⟨by omega, exists_covers_of_get?_positions found⟩
  · intro consistent apart
    refine ⟨isSome_get?_positions_of_isConsistent consistent, ?_⟩
    intro line other position otherPosition found otherFound smaller
    obtain ⟨shown, isShown, rfl, rfl⟩ := exists_shown_of_get?_positions found
    obtain ⟨below, isBelow, rfl, rfl⟩ := exists_shown_of_get?_positions otherFound
    exact position_lt_of_number_lt (pairwise_shownFrom consistent apart) isShown isBelow smaller

/-- Three hunks that stand apart; the second one only removes. -/
def spread : FileChange where
  oldPath := some ['f']
  newPath := some ['f']
  hunks :=
    [{ oldStart := 1, oldCount := 2, newStart := 1, newCount := 2
       lines := [⟨.removed, ['x']⟩, ⟨.context, ['a']⟩, ⟨.added, ['b']⟩] },
      { oldStart := 5, oldCount := 1, newStart := 5, newCount := 0, lines := [⟨.removed, ['y']⟩] },
      { oldStart := 6, oldCount := 0, newStart := 5, newCount := 1
        lines := [⟨.added, ['c']⟩, ⟨.noNewline, []⟩] }]

theorem positions_distinct_and_ordered_spread :
    ((∀ hunk ∈ spread.hunks, hunk.isConsistent = true) ∧ AreApart spread.hunks) ∧
      spread.positions = [(1, 2), (2, 3), (5, 7)] ∧
      (7 ≤ spread.lineCount + spread.hunks.length - 1) ∧
      ∀ line position, Table.get? line spread.positions = some position → line < 5 →
        position < 7 := by
  have consistent : ∀ hunk ∈ spread.hunks, hunk.isConsistent = true := by decide
  have apart : AreApart spread.hunks := by
    simp [AreApart, spread, Hunk.newEnd]
  have last : Table.get? 5 spread.positions = some 7 := by decide
  obtain ⟨-, bounded, ordered⟩ := positions_distinct_and_ordered spread
  refine ⟨⟨consistent, apart⟩, by decide, (bounded 5 7 last).1.2, ?_⟩
  intro line position found smaller
  exact (ordered consistent apart).2 line 5 position 7 found last smaller

end FileChange

end Marginalia
