import Mathlib.Data.List.Basic
import Mathlib.Data.List.TakeWhile
import Mathlib.Tactic.Common
import Marginalia.Diff.Printer
import Marginalia.Diff.Reader
import Marginalia.Proofs.Text.Blank
import Marginalia.Proofs.Text.Numeral

/-!
# The lines that open files and hunks

The line of a side gives back the path that was printed on it, and the header of a hunk gives back
the ranges and the heading.  In the other direction, a path that was read is printable and a header
that was read has ranges short enough to be read again and a trimmed heading.
-/

namespace Marginalia

open Text

/-! ## Paths -/

/-- A path that a printed side gives back: the absence of a file, or a name without tab that stays
on its line and does not end in a blank. -/
def IsPrintablePath (path : Text) : Prop :=
  path = devNull ∨ path ≠ [] ∧ '\t' ∉ path ∧ IsOneLine path ∧ trimRight path = path

instance (path : Text) : Decidable (IsPrintablePath path) :=
  inferInstanceAs (Decidable (_ ∨ _))

theorem IsPrintablePath.isBlank {path : Text} (printable : IsPrintablePath path) :
    isBlank path = false := by
  rcases printable with rfl | ⟨nonempty, _, _, trimmed⟩
  · decide
  · rw [← Bool.not_eq_true, ← trimRight_eq_nil_iff, trimmed]
    exact nonempty

theorem IsPrintablePath.isOneLine {path : Text} (printable : IsPrintablePath path) :
    IsOneLine path := by
  rcases printable with rfl | ⟨_, _, oneLine, _⟩
  · decide
  · exact oneLine

namespace Diff

/-- A mark that stands before the paths of one side. -/
structure IsSideMark (mark : Text) : Prop where
  /-- The mark holds no tab, so that none is put before a path. -/
  noTab : '\t' ∉ mark
  /-- No path that begins with the mark stands for the absence of a file. -/
  notAbsent (path : Text) : mark ++ path ≠ devNull

private theorem devNull_eq : devNull = ['/', 'd', 'e', 'v', '/', 'n', 'u', 'l', 'l'] := rfl

theorem isSideMark_old : IsSideMark ['a', '/'] where
  noTab := by decide
  notAbsent path := by simp [devNull_eq]

theorem isSideMark_new : IsSideMark ['b', '/'] where
  noTab := by decide
  notAbsent path := by simp [devNull_eq]

theorem isPrefixOf?_append_self (front back : Text) :
    front.isPrefixOf? (front ++ back) = some back :=
  List.isPrefixOf?_eq_some_iff_append_eq.mpr rfl

theorem readPath_devNull (mark : Text) : readPath mark devNull = devNull := by
  have clean : trimRight (before '\t' devNull) = devNull := by decide
  simp [readPath, clean]

/-- A printed side gives back its path. -/
theorem readPath_sidePath {mark path : Text} (isMark : IsSideMark mark)
    (printable : IsPrintablePath path) : readPath mark (sidePath mark (some path)) = path := by
  rcases printable with rfl | ⟨nonempty, noTab, _, trimmed⟩
  · simp [sidePath, isNoFile, readPath_devNull]
  · by_cases absent : path = devNull
    · simp [sidePath, isNoFile, absent, readPath_devNull]
    · have printed : sidePath mark (some path) = mark ++ path := by
        simp [sidePath, isNoFile, nonempty, absent]
      have noTabBefore : ∀ char ∈ mark ++ path, decide (char ≠ '\t') = true := by
        intro char isIn
        rw [decide_eq_true_eq]
        rintro rfl
        exact (List.mem_append.mp isIn).elim isMark.noTab noTab
      have kept : trimRight (before '\t' (mark ++ path)) = mark ++ path := by
        rw [before, List.takeWhile_eq_self_iff.mpr noTabBefore]
        exact (trimRight_append_of_ne_nil nonempty mark).mpr trimmed
      rw [printed, readPath]
      simp only [kept, if_neg (isMark.notAbsent path), isPrefixOf?_append_self, Option.getD_some]

/-- A path that was read from a line is printable, unless nothing is left of it. -/
theorem isPrintablePath_readPath {mark raw : Text} (oneLine : IsOneLine raw)
    (nonempty : readPath mark raw ≠ []) : IsPrintablePath (readPath mark raw) := by
  have fromRaw : trimRight (before '\t' raw) ⊆ before '\t' raw :=
    (trimRight_prefix_self _).subset
  have noTab : '\t' ∉ trimRight (before '\t' raw) := by
    intro isIn
    have kept := List.mem_takeWhile_imp (fromRaw isIn)
    simp at kept
  have oneLine : IsOneLine (trimRight (before '\t' raw)) :=
    oneLine.of_subset fun _ isIn => (List.takeWhile_prefix _).subset (fromRaw isIn)
  have trimmed := trimRight_trimRight (before '\t' raw)
  unfold readPath at nonempty ⊢
  generalize trimRight (before '\t' raw) = path at *
  by_cases absent : path = devNull
  · exact Or.inl (by simp [absent])
  · simp only [if_neg absent] at nonempty ⊢
    cases marked : mark.isPrefixOf? path with
    | none =>
        rw [marked] at nonempty
        exact Or.inr ⟨nonempty, noTab, oneLine, trimmed⟩
    | some name =>
        rw [marked] at nonempty
        obtain rfl := List.isPrefixOf?_eq_some_iff_append_eq.mp marked
        have ending := (isOneLine_append mark name).mp oneLine
        refine Or.inr ⟨nonempty, ?_, ending.2, trimRight_of_append trimmed⟩
        exact fun isIn => noTab (List.mem_append_right mark isIn)

/-! ## Header lines -/

/-- A text that a header gives as a range: visible characters only, and one at least. -/
def IsSolid (text : Text) : Prop :=
  text ≠ [] ∧ ∀ char ∈ text, isBlankChar char = false

theorem solid?_eq_some_iff (text front rest : Text) :
    solid? text = some (front, rest) ↔
      text = front ++ rest ∧ IsSolid front ∧ ∀ char ∈ rest.head?, isBlankChar char = true := by
  constructor
  · intro found
    simp only [solid?] at found
    split at found
    case isTrue => simp at found
    case isFalse nonempty =>
      obtain ⟨rfl, rfl⟩ := Prod.mk.inj (Option.some.inj found)
      refine ⟨(List.takeWhile_append_dropWhile).symm, ⟨by simpa using nonempty, ?_⟩, ?_⟩
      · intro char isIn
        simpa using List.mem_takeWhile_imp isIn
      · intro char isFirst
        have stops := List.head?_dropWhile_not (!isBlankChar ·) text
        rw [isFirst] at stops
        simpa using stops
  · rintro ⟨rfl, ⟨nonempty, visible⟩, stops⟩
    have kept : ∀ char ∈ front, (!isBlankChar char) = true := by simpa using visible
    have stopped : rest.takeWhile (!isBlankChar ·) = [] ∧
        rest.dropWhile (!isBlankChar ·) = rest := by
      cases rest with
      | nil => simp
      | cons char rest => simp [stops char rfl]
    simp [solid?, List.takeWhile_append_of_pos kept, List.dropWhile_append_of_pos kept, stopped,
      nonempty]

/-- A header line is two ranges between its four marks, with anything behind. -/
theorem headerParts?_eq_some_iff (line old new heading : Text) :
    headerParts? line = some (old, new, heading) ↔
      IsSolid old ∧ IsSolid new ∧ ∃ tail, heading = trim tail ∧
        line = "@@ -".toList ++ (old ++ (" +".toList ++ (new ++ (" @@".toList ++ tail)))) := by
  unfold headerParts?
  simp only [Option.bind_eq_bind, Option.bind_eq_some_iff, Prod.exists,
    List.isPrefixOf?_eq_some_iff_append_eq, solid?_eq_some_iff, Option.pure_def, Option.some.injEq,
    Prod.mk.injEq]
  constructor
  · rintro ⟨_, rfl, _, _, ⟨rfl, oldSolid, _⟩, _, rfl, _, _, ⟨rfl, newSolid, _⟩, tail, rfl, rfl,
      rfl, rfl⟩
    exact ⟨oldSolid, newSolid, tail, rfl, rfl⟩
  · rintro ⟨oldSolid, newSolid, tail, rfl, rfl⟩
    have blank (rest : Text) : ∀ char ∈ (' ' :: rest).head?, isBlankChar char = true := by
      intro char isFirst
      obtain rfl := Option.some.inj isFirst
      decide
    exact ⟨_, rfl, old, _, ⟨rfl, oldSolid, blank _⟩, _, rfl, new, _, ⟨rfl, newSolid, blank _⟩,
      tail, rfl, rfl, rfl, rfl⟩

/-- What a range says: a start, and behind a comma a count.  A count that is missing or empty is
one. -/
inductive IsRange : Text → Int → Int → Prop where
  /-- There is no comma. -/
  | alone {first : Text} {start : Int} (noComma : ',' ∉ first)
      (isStart : readInteger first = .ok start) : IsRange first start 1
  /-- Nothing stands behind the comma. -/
  | bare {first : Text} {start : Int} (noComma : ',' ∉ first)
      (isStart : readInteger first = .ok start) : IsRange (first ++ [',']) start 1
  /-- A count stands behind the comma. -/
  | counted {first second : Text} {start count : Int} (noComma : ',' ∉ first)
      (isStart : readInteger first = .ok start) (nonempty : second ≠ [])
      (isCount : readInteger second = .ok count) : IsRange (first ++ ',' :: second) start count

theorem readRange_eq_ok_iff (spec : Text) (start count : Int) :
    readRange spec = .ok (start, count) ↔ IsRange spec start count := by
  constructor
  · intro found
    simp only [readRange] at found
    split at found
    case h_1 readStart readCount startFound countFound =>
      obtain ⟨rfl, rfl⟩ := Prod.mk.inj (Except.ok.inj found)
      have noComma : ',' ∉ before ',' spec := fun isIn => by
        simpa using List.mem_takeWhile_imp isIn
      by_cases occurs : ',' ∈ spec
      · rw [← before_append_after occurs]
        cases second : after ',' spec with
        | nil =>
            rw [second] at countFound
            obtain rfl := Except.ok.inj countFound
            exact .bare noComma startFound
        | cons char rest =>
            rw [second] at countFound
            exact .counted noComma startFound (List.cons_ne_nil char rest) countFound
      · rw [before_of_notMem occurs] at startFound
        rw [after_of_notMem occurs] at countFound
        obtain rfl := Except.ok.inj countFound
        exact .alone occurs startFound
    case h_2 => simp at found
  · intro range
    cases range with
    | alone noComma isStart =>
        simp [readRange, before_of_notMem noComma, after_of_notMem noComma, isStart]
    | bare noComma isStart =>
        simp [readRange, before_append noComma, after_append noComma, isStart]
    | counted noComma isStart nonempty isCount =>
        simp [readRange, before_append noComma, after_append noComma, isStart, nonempty, isCount]

/-- A range that was printed is read as its start and its count. -/
theorem readRange_range {start count : Int} (startReadable : IsReadable start)
    (countReadable : IsReadable count) :
    readRange (Hunk.range start count) = .ok (start, count) := by
  have noComma : ',' ∉ ofInteger start := fun isIn => by
    simpa using toNat_of_mem_ofInteger isIn
  rw [readRange_eq_ok_iff]
  exact .counted noComma (readInteger_ofInteger startReadable) (ofInteger_ne_nil count)
    (readInteger_ofInteger countReadable)

/-- The start and the count of a range that was read can be read again. -/
theorem isReadable_of_readRange {spec : Text} {start count : Int}
    (found : readRange spec = .ok (start, count)) : IsReadable start ∧ IsReadable count := by
  cases (readRange_eq_ok_iff spec start count).mp found with
  | alone _ isStart => exact ⟨isReadable_of_readInteger isStart, by decide⟩
  | bare _ isStart => exact ⟨isReadable_of_readInteger isStart, by decide⟩
  | counted _ isStart _ isCount =>
      exact ⟨isReadable_of_readInteger isStart, isReadable_of_readInteger isCount⟩

private theorem isSolid_range (start count : Int) : IsSolid (Hunk.range start count) := by
  refine ⟨by simp [Hunk.range], ?_⟩
  intro char isIn
  simp only [Hunk.range, List.mem_append, List.mem_cons] at isIn
  rcases isIn with inStart | rfl | inCount
  · exact isBlankChar_of_mem_ofInteger inStart
  · decide
  · exact isBlankChar_of_mem_ofInteger inCount

/-- A line is read as a header exactly when it is two ranges between the marks of a header; the hunk
has no body yet. -/
theorem readHeader_eq_ok_iff (line : Text) (hunk : Hunk) :
    readHeader line = .ok hunk ↔
      ∃ old new, headerParts? line = some (old, new, hunk.heading) ∧
        readRange old = .ok (hunk.oldStart, hunk.oldCount) ∧
        readRange new = .ok (hunk.newStart, hunk.newCount) ∧ hunk.lines = [] := by
  obtain ⟨oldStart, oldCount, newStart, newCount, lines, heading⟩ := hunk
  constructor
  · intro found
    cases parts : headerParts? line with
    | none => simp [readHeader, parts] at found
    | some result =>
        obtain ⟨old, new, heading⟩ := result
        simp only [readHeader, parts] at found
        cases oldFound : readRange old with
        | error fault => simp [oldFound, bind, Except.bind] at found
        | ok oldRange =>
            cases newFound : readRange new with
            | error fault => simp [oldFound, newFound, bind, Except.bind] at found
            | ok newRange =>
                simp only [oldFound, newFound, bind, Except.bind, pure, Except.pure,
                  Except.ok.injEq, Hunk.mk.injEq] at found
                obtain ⟨rfl, rfl, rfl, rfl, rfl, rfl⟩ := found
                exact ⟨old, new, rfl, oldFound, newFound, rfl⟩
  · rintro ⟨old, new, parts, oldFound, newFound, empty⟩
    simp only [readHeader, parts, oldFound, newFound, bind, Except.bind, pure,
      Except.pure] at empty ⊢
    rw [empty]

end Diff

/-- What a header line says: two ranges without blanks between its four marks, and behind them the
heading, with blanks around it or none. -/
def Hunk.IsOpenedBy (hunk : Hunk) (line : Text) : Prop :=
  ∃ old new tail, line =
      "@@ -".toList ++ (old ++ (" +".toList ++ (new ++ (" @@".toList ++ tail)))) ∧
    Diff.IsSolid old ∧ Diff.IsSolid new ∧ Diff.IsRange old hunk.oldStart hunk.oldCount ∧
      Diff.IsRange new hunk.newStart hunk.newCount ∧ hunk.heading = trim tail

/-- A line is read as the header that it is, and the hunk has no body yet. -/
theorem Diff.readHeader_eq_ok_iff_isOpenedBy (line : Text) (hunk : Hunk) :
    readHeader line = .ok hunk ↔ hunk.IsOpenedBy line ∧ hunk.lines = [] := by
  simp only [readHeader_eq_ok_iff, headerParts?_eq_some_iff, readRange_eq_ok_iff, Hunk.IsOpenedBy]
  constructor
  · rintro ⟨old, new, ⟨oldSolid, newSolid, tail, heading, isLine⟩, oldRange, newRange, empty⟩
    exact ⟨⟨old, new, tail, isLine, oldSolid, newSolid, oldRange, newRange, heading⟩, empty⟩
  · rintro ⟨⟨old, new, tail, isLine, oldSolid, newSolid, oldRange, newRange, heading⟩, empty⟩
    exact ⟨old, new, ⟨oldSolid, newSolid, tail, heading, isLine⟩, oldRange, newRange, empty⟩

/-- A line that opens like a header and is none. -/
def IsMalformedHeader (line : Text) : Prop :=
  ['@', '@'] <+: line ∧ ¬∃ hunk : Hunk, hunk.IsOpenedBy line

/-- What a header line can carry of a hunk: integers that are not too long, and a heading that is
trimmed and stays on the line. -/
structure Hunk.HasPrintableHeader (hunk : Hunk) : Prop where
  /-- The integers of both ranges can be read again. -/
  isReadable : ∀ number ∈ [hunk.oldStart, hunk.oldCount, hunk.newStart, hunk.newCount],
    IsReadable number
  /-- The heading has no blanks around it. -/
  trim_heading : trim hunk.heading = hunk.heading
  /-- The heading holds no end of a line. -/
  isOneLine_heading : IsOneLine hunk.heading

namespace Diff

/-- A printed header gives back the hunk, less its body. -/
theorem readHeader_header {hunk : Hunk} (printable : hunk.HasPrintableHeader) :
    readHeader hunk.header = .ok { hunk with lines := [] } := by
  obtain ⟨readable, trimmed, -⟩ := printable
  simp only [List.forall_mem_cons, List.not_mem_nil, false_imp_iff, implies_true, and_true]
    at readable
  obtain ⟨oldStart, oldCount, newStart, newCount⟩ := readable
  rw [readHeader_eq_ok_iff]
  refine ⟨Hunk.range hunk.oldStart hunk.oldCount, Hunk.range hunk.newStart hunk.newCount, ?_,
    readRange_range oldStart oldCount, readRange_range newStart newCount, rfl⟩
  rw [headerParts?_eq_some_iff]
  refine ⟨isSolid_range _ _, isSolid_range _ _,
    if hunk.heading.isEmpty then [] else ' ' :: hunk.heading, ?_, ?_⟩
  · cases heading : hunk.heading with
    | nil => rfl
    | cons char rest =>
        have skipped : trim (' ' :: char :: rest) = trim (char :: rest) := rfl
        simp only [List.isEmpty_cons, Bool.false_eq_true, if_false]
        rw [skipped, ← heading, trimmed]
  · unfold Hunk.header
    simp only [List.append_assoc]

/-- A header that was read from a line can be printed. -/
theorem hasPrintableHeader_of_readHeader {line : Text} {hunk : Hunk} (oneLine : IsOneLine line)
    (found : readHeader line = .ok hunk) : hunk.HasPrintableHeader := by
  obtain ⟨old, new, parts, oldFound, newFound, -⟩ := (readHeader_eq_ok_iff line hunk).mp found
  obtain ⟨-, -, tail, heading, rfl⟩ := (headerParts?_eq_some_iff _ _ _ _).mp parts
  simp only [isOneLine_append] at oneLine
  have oldReadable := isReadable_of_readRange oldFound
  have newReadable := isReadable_of_readRange newFound
  refine ⟨by simp [oldReadable, newReadable], ?_, ?_⟩
  · rw [heading, trim_trim]
  · rw [heading]
    exact oneLine.2.2.2.2.2.of_subset (trim_subset tail)

end Diff

end Marginalia
