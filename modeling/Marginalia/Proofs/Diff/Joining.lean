import Mathlib.Tactic.Common
import Marginalia.Proofs.Diff.Reading

/-!
# Diffs behind one another

A text that begins a diff anew is read behind another diff as if it stood alone: its first line ends
the hunk that may still be open, and its first file takes the place of one that may only have been
announced.  So the damage of a hunk that was cut off stays in its file.
-/

namespace Marginalia

open Text

namespace Diff

/-- A line that names a side of a file, or opens like a hunk header. -/
def isStructural (line : Text) : Bool :=
  [['-', '-', '-', ' '], ['+', '+', '+', ' '], ['@', '@']].any (·.isPrefixOf line)

/-- Lines that begin a diff anew. -/
structure BeginAnew (lines : List Text) : Prop where
  /-- The first line is not empty, is not marked like a body line, and opens no hunk. -/
  first : ∃ char rest, lines.head? = some (char :: rest) ∧ char ∉ ['+', '-', ' ', '\\'] ∧
    ¬['@', '@'] <+: char :: rest
  /-- The first line that names a side or opens a hunk names the old side of a file. -/
  side : ∀ line ∈ lines.find? isStructural, ['-', '-', '-', ' '] <+: line

theorem ofMark?_eq_none {char : Char} (unmarked : char ∉ ['+', '-', ' ', '\\']) :
    LineKind.ofMark? char = none := by
  cases found : LineKind.ofMark? char with
  | none => rfl
  | some kind =>
      obtain rfl := LineKind.eq_mark_of_ofMark? found
      exact absurd (by cases kind <;> decide) unmarked

/-- The first line ends the open hunk, so nothing before it decides how the lines are read. -/
theorem readItems_of_beginAnew {lines : List Text} (anew : BeginAnew lines) (number : Nat)
    (owed : Option Owed) :
    readItems number owed lines = (readItems (number + 1) none lines.tail).map (.other :: ·) := by
  obtain ⟨char, rest, isFirst, unmarked, notHeader⟩ := anew.first
  obtain ⟨others, rfl⟩ := List.head?_eq_some_iff.mp isFirst
  rw [readItems, readItem_other owed (ofMark?_eq_none unmarked) notHeader]
  rfl

theorem readItem_none_of_not_structural {line : Text} (plain : isStructural line = false) :
    readItem none line = .ok .other := by
  rw [readItem_of_isMet isMet_none]
  unfold readOutside
  split
  case h_1 => simp [isStructural] at plain
  case h_2 => simp [isStructural] at plain
  case h_3 => simp [isStructural] at plain
  case h_4 => rfl
  case h_5 => rfl

/-- Where no hunk is open and the first structural line names an old side, the first entry does. -/
theorem groupItems_of_side {lines : List Text} {items : List Item} {after : Option Owed}
    (run : Reads none lines items after)
    (side : ∀ line ∈ lines.find? isStructural, ['-', '-', '-', ' '] <+: line) :
    (groupItems items).1 = [] ∧
      ((groupItems items).2 = [] ∨
        ∃ path entries, (groupItems items).2 = .oldSide path :: entries) := by
  induction lines generalizing items with
  | nil =>
      cases run
      exact ⟨rfl, .inl rfl⟩
  | cons line lines induct =>
      cases run with
      | @cons _ _ _ _ item items first rest =>
          cases structural : isStructural line with
          | true =>
              obtain ⟨raw, rfl⟩ := side line (List.find?_cons_of_pos structural)
              have isSide := readItem_oldSide isMet_none raw
              obtain rfl := Except.ok.inj (first.symm.trans isSide)
              exact ⟨rfl, .inr ⟨_, _, rfl⟩⟩
          | false =>
              obtain rfl := Except.ok.inj
                (first.symm.trans (readItem_none_of_not_structural structural))
              rw [List.find?_cons_of_neg (by simp [structural])] at side
              exact ⟨rfl, (induct rest side).2⟩

/-- Files that are read from lines that begin a diff anew are not collected with files before. -/
theorem collect_append_of_beginAnew {lines : List Text} {items : List Item} {after : Option Owed}
    (anew : BeginAnew lines) (run : Reads none lines items after) (front : List Item) :
    collect .nothing (groupItems (front ++ items)).2 =
      collect .nothing (groupItems front).2 ++ collect .nothing (groupItems items).2 := by
  obtain ⟨unopened, entries⟩ := groupItems_of_side run anew.side
  rw [groupItems_append front unopened]
  rcases entries with empty | ⟨path, entries, opened⟩
  · simp [empty, collect, Cursor.toList]
  · rw [opened, collect_append_oldSide]

/-- A text that begins a diff anew and stands behind the lines of another diff adds its own files to
those of the other, or is refused for its own fault, as many lines later as stand before it. -/
theorem read_append {front back : Text} {diff : Diff}
    (ended : ∀ last ∈ front.getLast?, last = '\n') (isRead : read front = .ok diff)
    (anew : BeginAnew (Text.lines back)) :
    (∀ more, read back = .ok more → read (front ++ back) = .ok ⟨diff.files ++ more.files⟩) ∧
      ∀ fault, read back = .error fault →
        read (front ++ back) = .error (fault.movedBy (Text.lines front).length) := by
  obtain ⟨items, middle, run, rfl⟩ := (read_eq_ok_iff front diff).mp isRead
  -- Whatever the front leaves behind, the back is read as from the beginning of a text.
  have alone (number : Nat) :
      readItems number middle (Text.lines back) = readItems number none (Text.lines back) := by
    rw [readItems_of_beginAnew anew, readItems_of_beginAnew anew]
  have joined : readItems 1 none (Text.lines (front ++ back)) =
      ((readItems 1 none (Text.lines back)).mapError
        (·.movedBy (Text.lines front).length)).map (items ++ ·) := by
    rw [Text.lines_append ended, run.readItems_append, alone, readItems_add]
  constructor
  · intro more moreRead
    obtain ⟨others, after, otherRun, rfl⟩ := (read_eq_ok_iff back more).mp moreRead
    have itemsRead := (readItems_eq_ok_iff 1 none _ others).mpr ⟨after, otherRun⟩
    rw [itemsRead] at joined
    rw [read, ofLines, joined, ← collect_append_of_beginAnew anew otherRun]
    rfl
  · intro fault refused
    rw [read_eq_error_iff] at refused ⊢
    rw [joined, refused]
    rfl

/-- A diff that was cut off in the middle of a hunk. -/
def cutOff : Text :=
  unlines ["--- a/f".toList, "+++ b/f".toList, "@@ -1,5 +1,5 @@".toList, " a".toList]

/-- A diff of another file, whose hunk may have a header that cannot be read. -/
def another (range : Text) : Text :=
  unlines ["diff --git a/g b/g".toList, "--- a/g".toList, "+++ b/g".toList,
    "@@ -1 +".toList ++ range ++ " @@".toList, "-x".toList, "+y".toList]

theorem read_append_cutOff :
    ((∀ last ∈ cutOff.getLast?, last = '\n') ∧ BeginAnew (Text.lines (another ['1'])) ∧
        BeginAnew (Text.lines (another ['z']))) ∧
      (∃ diff more, read cutOff = .ok diff ∧ read (another ['1']) = .ok more ∧
        read (cutOff ++ another ['1']) = .ok ⟨diff.files ++ more.files⟩) ∧
        read (another ['z']) = .error ⟨4, .range ['z']⟩ ∧
          read (cutOff ++ another ['z']) = .error ⟨8, .range ['z']⟩ := by
  have ended : ∀ last ∈ cutOff.getLast?, last = '\n' := fun last isLast =>
    (Option.some.inj isLast).symm
  have anew : BeginAnew (Text.lines (another ['1'])) :=
    ⟨⟨'d', "iff --git a/g b/g".toList, by decide +kernel, by decide, by decide⟩, by decide +kernel⟩
  have damagedAnew : BeginAnew (Text.lines (another ['z'])) :=
    ⟨⟨'d', "iff --git a/g b/g".toList, by decide +kernel, by decide, by decide⟩, by decide +kernel⟩
  obtain ⟨diff, isRead⟩ : ∃ diff, read cutOff = .ok diff := ⟨_, rfl⟩
  obtain ⟨more, moreRead⟩ : ∃ more, read (another ['1']) = .ok more := ⟨_, rfl⟩
  have refused : read (another ['z']) = .error ⟨4, .range ['z']⟩ := by decide +kernel
  exact ⟨⟨ended, anew, damagedAnew⟩,
    ⟨diff, more, isRead, moreRead, (read_append ended isRead anew).1 more moreRead⟩, refused,
    (read_append ended isRead damagedAnew).2 _ refused⟩

end Diff

end Marginalia
