import Marginalia.Proofs.Diff.Printing
import Marginalia.Proofs.Diff.Reading

/-!
# What a read diff is made of

Nothing in a diff that was read is made up: every path stands on the line of its side, every hunk
opens with a header line, and every body line is a line behind its mark, or an empty line that was
read as empty context.  The property is stated for items, entries, and files in turn, and each
stage of the reader keeps it.
-/

namespace Marginalia

open Text

/-- The lines that a body line can be read from. -/
def BodyLine.IsReadFrom (lines : List Text) (line : BodyLine) : Prop :=
  line.render ∈ lines ∨ [] ∈ lines ∧ line = ⟨.context, []⟩

/-- The lines that a hunk can be read from. -/
structure Hunk.IsReadFrom (lines : List Text) (hunk : Hunk) : Prop where
  /-- The header is read from a line. -/
  header : ∃ line ∈ lines, Diff.readHeader line = .ok { hunk with lines := [] }
  /-- So is every line of the body. -/
  body : ∀ line ∈ hunk.lines, line.IsReadFrom lines

/-- The lines that a path can be read from, when the lines of its side open in a given way. -/
def IsPathReadFrom (lines : List Text) (opening mark path : Text) : Prop :=
  ∃ raw, opening ++ raw ∈ lines ∧ Diff.readPath mark raw = path

/-- The lines that the path of an old side can be read from. -/
abbrev IsOldPathReadFrom (lines : List Text) (path : Text) : Prop :=
  IsPathReadFrom lines ['-', '-', '-', ' '] ['a', '/'] path

/-- The lines that the path of a new side can be read from. -/
abbrev IsNewPathReadFrom (lines : List Text) (path : Text) : Prop :=
  IsPathReadFrom lines ['+', '+', '+', ' '] ['b', '/'] path

/-- The lines that a changed file can be read from. -/
structure FileChange.IsReadFrom (lines : List Text) (file : FileChange) : Prop where
  /-- The path of the old side, if any, is read from a line. -/
  oldPath : ∀ path ∈ file.oldPath, IsOldPathReadFrom lines path
  /-- So is the path of the new side, if any. -/
  newPath : ∀ path ∈ file.newPath, IsNewPathReadFrom lines path
  /-- So are the hunks. -/
  hunks : ∀ hunk ∈ file.hunks, hunk.IsReadFrom lines

namespace Diff

/-! ## Items -/

/-- The lines that an item can be read from. -/
def Item.IsReadFrom (lines : List Text) : Item → Prop
  | .oldSide path => IsOldPathReadFrom lines path
  | .newSide path => IsNewPathReadFrom lines path
  | .header hunk => ∃ line ∈ lines, readHeader line = .ok hunk
  | .body line => line.IsReadFrom lines
  | .other => True

theorem isReadFrom_of_bodyLine? {lines : List Text} {line : Text} {body : BodyLine}
    (isLine : line ∈ lines) (found : bodyLine? line = some body) : body.IsReadFrom lines := by
  cases line with
  | nil =>
      obtain rfl := Option.some.inj found
      exact Or.inr ⟨isLine, rfl⟩
  | cons char content =>
      obtain ⟨kind, marked, rfl⟩ := Option.map_eq_some_iff.mp found
      obtain rfl := LineKind.eq_mark_of_ofMark? marked
      exact Or.inl isLine

private theorem isReadFrom_of_readOutside {lines : List Text} {line : Text} {isOpen : Bool}
    {item : Item} (isLine : line ∈ lines) (found : readOutside isOpen line = .ok item) :
    item.IsReadFrom lines := by
  unfold readOutside at found
  split at found
  case h_1 raw =>
    obtain rfl := Except.ok.inj found
    exact ⟨raw, isLine, rfl⟩
  case h_2 raw =>
    obtain rfl := Except.ok.inj found
    exact ⟨raw, isLine, rfl⟩
  case h_3 rest =>
    cases header : readHeader ('@' :: '@' :: rest) with
    | error fault => simp [header, Except.map] at found
    | ok hunk =>
        rw [header] at found
        obtain rfl := Except.ok.inj found
        exact ⟨_, isLine, header⟩
  case h_4 content =>
    obtain rfl := Except.ok.inj found
    cases isOpen with
    | true => exact Or.inl isLine
    | false => trivial
  case h_5 =>
    obtain rfl := Except.ok.inj found
    trivial

theorem isReadFrom_of_readItem {lines : List Text} {line : Text} {owed : Option Owed} {item : Item}
    (isLine : line ∈ lines) (found : readItem owed line = .ok item) : item.IsReadFrom lines := by
  unfold readItem at found
  split at found
  case h_1 body isBody =>
    obtain rfl := Except.ok.inj found
    split at isBody
    · exact isReadFrom_of_bodyLine? isLine isBody
    · simp at isBody
  case h_2 => exact isReadFrom_of_readOutside isLine found

theorem Reads.isReadFrom {all lines : List Text} {owed after : Option Owed} {items : List Item}
    (run : Reads owed lines items after) (subset : lines ⊆ all) :
    ∀ item ∈ items, item.IsReadFrom all := by
  induction run with
  | nil => simp
  | cons first _ induct =>
      rw [List.cons_subset] at subset
      exact List.forall_mem_cons.mpr
        ⟨isReadFrom_of_readItem subset.1 first, induct subset.2⟩

/-! ## Entries -/

/-- The lines that an entry can be read from. -/
def Entry.IsReadFrom (lines : List Text) : Entry → Prop
  | .oldSide path => IsOldPathReadFrom lines path
  | .newSide path => IsNewPathReadFrom lines path
  | .hunk part => part.IsReadFrom lines

theorem isReadFrom_of_groupItems {lines : List Text} {items : List Item}
    (sources : ∀ item ∈ items, item.IsReadFrom lines) :
    (∀ body ∈ (groupItems items).1, body.IsReadFrom lines) ∧
      ∀ entry ∈ (groupItems items).2, entry.IsReadFrom lines := by
  induction items with
  | nil => simp [groupItems]
  | cons item items induct =>
      obtain ⟨first, others⟩ := List.forall_mem_cons.mp sources
      obtain ⟨bodies, entries⟩ := induct others
      cases item with
      | oldSide path => exact ⟨by simp [groupItems], List.forall_mem_cons.mpr ⟨first, entries⟩⟩
      | newSide path => exact ⟨by simp [groupItems], List.forall_mem_cons.mpr ⟨first, entries⟩⟩
      | body line => exact ⟨List.forall_mem_cons.mpr ⟨first, bodies⟩, entries⟩
      | other => exact ⟨by simp [groupItems], entries⟩
      | header hunk =>
          obtain ⟨line, isLine, found⟩ := first
          have empty : hunk.lines = [] := by
            obtain ⟨_, _, _, _, _, empty⟩ := (readHeader_eq_ok_iff line hunk).mp found
            exact empty
          have opened : { hunk with lines := [] } = hunk := by rw [← empty]
          refine ⟨by simp [groupItems],
            List.forall_mem_cons.mpr ⟨⟨⟨line, isLine, ?_⟩, bodies⟩, entries⟩⟩
          exact found.trans (congrArg Except.ok opened.symm)

/-! ## Files -/

/-- The lines that the file under a cursor can be read from. -/
def Cursor.IsReadFrom (lines : List Text) : Cursor → Prop
  | .nothing => True
  | .announced oldPath => IsOldPathReadFrom lines oldPath
  | .listed file => file.IsReadFrom lines

private theorem isReadFrom_of_mem_toList {lines : List Text} {cursor : Cursor}
    (source : cursor.IsReadFrom lines) : ∀ file ∈ cursor.toList, file.IsReadFrom lines := by
  cases cursor with
  | nothing => simp [Cursor.toList]
  | announced oldPath => simp [Cursor.toList]
  | listed file => exact List.forall_mem_singleton.mpr source

private theorem isReadFrom_withHunk {lines : List Text} {cursor : Cursor} {hunk : Hunk}
    (source : cursor.IsReadFrom lines) (hunkSource : hunk.IsReadFrom lines) :
    (cursor.withHunk hunk).IsReadFrom lines := by
  cases cursor with
  | nothing => constructor <;> simp [Cursor.withHunk, hunkSource]
  | announced oldPath => constructor <;> simp [Cursor.withHunk, hunkSource]; exact source
  | listed file =>
      refine ⟨source.oldPath, source.newPath, ?_⟩
      intro other isIn
      rcases List.mem_append.mp isIn with isOld | isNew
      · exact source.hunks other isOld
      · obtain rfl := List.mem_singleton.mp isNew
        exact hunkSource

theorem isReadFrom_of_collect {lines : List Text} {cursor : Cursor} {entries : List Entry}
    (source : cursor.IsReadFrom lines) (sources : ∀ entry ∈ entries, entry.IsReadFrom lines) :
    ∀ file ∈ collect cursor entries, file.IsReadFrom lines := by
  induction entries generalizing cursor with
  | nil =>
      rw [collect]
      exact isReadFrom_of_mem_toList source
  | cons entry entries induct =>
      obtain ⟨first, others⟩ := List.forall_mem_cons.mp sources
      have finished := isReadFrom_of_mem_toList source
      cases entry with
      | oldSide path =>
          rw [collect, List.forall_mem_append]
          exact ⟨finished, induct first others⟩
      | newSide path =>
          have started {oldPath : Option Text}
              (old : ∀ path ∈ oldPath, IsOldPathReadFrom lines path) :
              Cursor.IsReadFrom lines (.listed { oldPath, newPath := some path }) := by
            refine ⟨old, ?_, by simp⟩
            intro other isOther
            obtain rfl := Option.mem_some.mp isOther
            exact first
          cases cursor with
          | announced oldPath =>
              refine induct (started ?_) others
              intro other isOther
              obtain rfl := Option.mem_some.mp isOther
              exact source
          | nothing => exact induct (started (by simp)) others
          | listed file =>
              rw [collect, List.forall_mem_append]
              · exact ⟨finished, induct (started (by simp)) others⟩
              · simp
      | hunk hunk =>
          rw [collect]
          exact induct (isReadFrom_withHunk source first) others

/-- Every file of a diff that was read is read from the lines of the text. -/
theorem isReadFrom_of_read {text : Text} {diff : Diff} (found : read text = .ok diff) :
    ∀ file ∈ diff.files, file.IsReadFrom (Text.lines text) := by
  obtain ⟨items, after, run, rfl⟩ := (read_eq_ok_iff text diff).mp found
  have items := run.isReadFrom (List.Subset.refl _)
  exact isReadFrom_of_collect trivial (isReadFrom_of_groupItems items).2

end Diff

/-! ## What lines can carry -/

/-- A path that was read from the lines of a text is printable, unless it is empty. -/
theorem IsPathReadFrom.isPrintablePath {text opening mark path : Text}
    (source : IsPathReadFrom (Text.lines text) opening mark path) (nonempty : path ≠ []) :
    IsPrintablePath path := by
  obtain ⟨raw, isLine, rfl⟩ := source
  have oneLine : IsOneLine (opening ++ raw) := isBoundary_of_mem_lines text _ isLine
  exact Diff.isPrintablePath_readPath ((isOneLine_append _ _).mp oneLine).2 nonempty

theorem IsPathReadFrom.isOneLine {text opening mark path : Text}
    (source : IsPathReadFrom (Text.lines text) opening mark path) : IsOneLine path := by
  by_cases empty : path = []
  · simp [empty]
  · exact (source.isPrintablePath empty).isOneLine

theorem Hunk.IsReadFrom.hasPrintableHeader {text : Text} {hunk : Hunk}
    (source : hunk.IsReadFrom (Text.lines text)) : hunk.HasPrintableHeader := by
  obtain ⟨line, isLine, found⟩ := source.header
  have oneLine := isBoundary_of_mem_lines text line isLine
  have opened := Diff.hasPrintableHeader_of_readHeader oneLine found
  exact ⟨opened.isReadable, opened.trim_heading, opened.isOneLine_heading⟩

theorem Hunk.IsReadFrom.staysOnLines {text : Text} {hunk : Hunk}
    (source : hunk.IsReadFrom (Text.lines text)) : hunk.StaysOnLines := by
  refine ⟨source.hasPrintableHeader.isOneLine_heading, fun line isIn => ?_⟩
  rcases source.body line isIn with isLine | ⟨_, rfl⟩
  · exact ((isOneLine_cons _ _).mp (isBoundary_of_mem_lines text _ isLine)).2
  · exact isOneLine_nil

/-- A file that was read from the lines of a text says nothing across the end of a line. -/
theorem FileChange.IsReadFrom.staysOnLines {text : Text} {file : FileChange}
    (source : file.IsReadFrom (Text.lines text)) : file.StaysOnLines where
  oldPath path isPath := (source.oldPath path isPath).isOneLine
  newPath path isPath := (source.newPath path isPath).isOneLine
  hunks hunk isHunk := (source.hunks hunk isHunk).staysOnLines

end Marginalia
