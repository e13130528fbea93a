import Mathlib.Data.List.Basic
import Mathlib.Tactic.Common
import Marginalia.Proofs.Diff.Provenance

/-!
# Printed diffs read back

A well-formed diff is read from what was printed for it, and what is read is well-formed once both
sides of every file are named and every hunk agrees with its header.  The invariant carried along
the printed lines is that nothing is owed between two hunks, so that the line of a side is never
taken for body; inside a hunk the owed counts are those of the body lines still to come, so that
whatever a body line says, it is taken for body.
-/

namespace Marginalia

open Text

/-- A hunk that agrees with its header and whose lines each stay on one line. -/
structure Hunk.IsWellFormed (hunk : Hunk) : Prop extends hunk.HasPrintableHeader where
  /-- The body agrees with the declared counts. -/
  isConsistent : hunk.isConsistent = true
  /-- No body line holds the end of a line; apart from that it may say anything. -/
  isOneLine_content : ∀ line ∈ hunk.lines, IsOneLine line.content

/-- A changed file whose sides are both named and whose hunks are well-formed. -/
structure FileChange.IsWellFormed (file : FileChange) : Prop where
  /-- The old side is named. -/
  oldPath : ∃ path ∈ file.oldPath, IsPrintablePath path
  /-- The new side is named. -/
  newPath : ∃ path ∈ file.newPath, IsPrintablePath path
  /-- The hunks are well-formed. -/
  hunks : ∀ hunk ∈ file.hunks, hunk.IsWellFormed

/-- A diff of well-formed files. -/
def Diff.IsWellFormed (diff : Diff) : Prop :=
  ∀ file ∈ diff.files, file.IsWellFormed

instance (hunk : Hunk) : Decidable hunk.HasPrintableHeader :=
  decidable_of_iff
    ((∀ number ∈ [hunk.oldStart, hunk.oldCount, hunk.newStart, hunk.newCount],
        IsReadable number) ∧
      trim hunk.heading = hunk.heading ∧ IsOneLine hunk.heading)
    ⟨fun ⟨readable, trimmed, oneLine⟩ => ⟨readable, trimmed, oneLine⟩,
      fun header => ⟨header.isReadable, header.trim_heading, header.isOneLine_heading⟩⟩

instance (hunk : Hunk) : Decidable hunk.IsWellFormed :=
  decidable_of_iff
    (hunk.HasPrintableHeader ∧ hunk.isConsistent = true ∧
      ∀ line ∈ hunk.lines, IsOneLine line.content)
    ⟨fun ⟨header, consistent, oneLine⟩ => ⟨header, consistent, oneLine⟩,
      fun formed => ⟨formed.toHasPrintableHeader, formed.isConsistent, formed.isOneLine_content⟩⟩

instance (file : FileChange) : Decidable file.IsWellFormed :=
  decidable_of_iff
    ((∃ path ∈ file.oldPath, IsPrintablePath path) ∧ (∃ path ∈ file.newPath, IsPrintablePath path) ∧
      ∀ hunk ∈ file.hunks, hunk.IsWellFormed)
    ⟨fun ⟨old, new, hunks⟩ => ⟨old, new, hunks⟩,
      fun formed => ⟨formed.oldPath, formed.newPath, formed.hunks⟩⟩

instance (diff : Diff) : Decidable diff.IsWellFormed :=
  inferInstanceAs (Decidable (∀ file ∈ diff.files, file.IsWellFormed))

namespace Diff

/-! ## Hunks -/

/-- The items of a printed hunk. -/
def itemsOfHunk (hunk : Hunk) : List Item :=
  .header { hunk with lines := [] } :: hunk.lines.map .body

/-- A printed hunk is read as its header and its body, whatever is owed before it. -/
private theorem reads_hunk {hunk : Hunk} (formed : hunk.IsWellFormed) (owed : Option Owed) :
    Reads owed hunk.rendered (itemsOfHunk hunk) (some (owedFor [])) := by
  have isHeader := readHeader_header formed.toHasPrintableHeader
  refine .cons (readItem_of_readHeader isHeader owed) ?_
  have body := reads_body hunk.lines
  rwa [owedFor_lines formed.isConsistent] at body

/-- Printed hunks are read one after another. -/
private theorem reads_hunks {hunks : List Hunk} (formed : ∀ hunk ∈ hunks, hunk.IsWellFormed)
    {owed : Option Owed} (met : IsMet owed) :
    ∃ after, IsMet after ∧
      Reads owed (hunks.flatMap Hunk.rendered) (hunks.flatMap itemsOfHunk) after := by
  induction hunks generalizing owed with
  | nil => exact ⟨owed, met, .nil⟩
  | cons hunk hunks induct =>
      obtain ⟨first, others⟩ := List.forall_mem_cons.mp formed
      obtain ⟨after, afterMet, run⟩ := induct others ((isMet_some_iff (owedFor [])).mpr (by decide))
      exact ⟨after, afterMet, (reads_hunk first owed).append run⟩

/-! ## Files -/

/-- The items of a printed file. -/
def itemsOfFile (file : FileChange) : List Item :=
  .oldSide (file.oldPath.getD []) :: .newSide (file.newPath.getD []) ::
    file.hunks.flatMap itemsOfHunk

private theorem readPath_side {mark : Text} {path : Option Text} (isMark : IsSideMark mark)
    (named : ∃ name ∈ path, IsPrintablePath name) :
    readPath mark (sidePath mark path) = path.getD [] := by
  obtain ⟨name, isName, printable⟩ := named
  obtain rfl := Option.mem_def.mp isName
  exact readPath_sidePath isMark printable

private theorem reads_file {file : FileChange} (formed : file.IsWellFormed) {owed : Option Owed}
    (met : IsMet owed) :
    ∃ after, IsMet after ∧ Reads owed file.rendered (itemsOfFile file) after := by
  obtain ⟨after, afterMet, run⟩ := reads_hunks formed.hunks isMet_none
  have old := readItem_oldSide met (sidePath ['a', '/'] file.oldPath)
  have new := readItem_newSide isMet_none (sidePath ['b', '/'] file.newPath)
  rw [readPath_side isSideMark_old formed.oldPath] at old
  rw [readPath_side isSideMark_new formed.newPath] at new
  exact ⟨after, afterMet, .cons old (.cons new run)⟩

private theorem reads_files {files : List FileChange} (formed : ∀ file ∈ files, file.IsWellFormed)
    {owed : Option Owed} (met : IsMet owed) :
    ∃ after, Reads owed (files.flatMap FileChange.rendered) (files.flatMap itemsOfFile) after := by
  induction files generalizing owed with
  | nil => exact ⟨owed, .nil⟩
  | cons file files induct =>
      obtain ⟨first, others⟩ := List.forall_mem_cons.mp formed
      obtain ⟨middle, middleMet, firstRun⟩ := reads_file first met
      obtain ⟨after, run⟩ := induct others middleMet
      exact ⟨after, firstRun.append run⟩

/-! ## From items back to files -/

private theorem groupItems_body (lines : List BodyLine) (items : List Item) :
    groupItems (lines.map .body ++ items) =
      (lines ++ (groupItems items).1, (groupItems items).2) := by
  induction lines with
  | nil => rfl
  | cons line lines induct => simp [groupItems, induct]

private theorem groupItems_hunks (hunks : List Hunk) :
    groupItems (hunks.flatMap itemsOfHunk) = ([], hunks.map .hunk) := by
  induction hunks with
  | nil => rfl
  | cons hunk hunks induct => simp [itemsOfHunk, groupItems, groupItems_body, induct]

private theorem groupItems_files (files : List FileChange) :
    groupItems (files.flatMap itemsOfFile) =
      ([], files.flatMap fun file =>
        .oldSide (file.oldPath.getD []) :: .newSide (file.newPath.getD []) ::
          file.hunks.map .hunk) := by
  induction files with
  | nil => rfl
  | cons file files induct =>
      have joined := groupItems_append (file.hunks.flatMap itemsOfHunk) (congrArg Prod.fst induct)
      simp [itemsOfFile, groupItems, joined, groupItems_hunks, induct]

private theorem collect_hunks (file : FileChange) (hunks : List Hunk) (entries : List Entry) :
    collect (.listed file) (hunks.map .hunk ++ entries) =
      collect (.listed { file with hunks := file.hunks ++ hunks }) entries := by
  induction hunks generalizing file with
  | nil => simp
  | cons hunk hunks induct => simp [collect, Cursor.withHunk, induct]

private theorem collect_files {files : List FileChange} (formed : ∀ file ∈ files, file.IsWellFormed)
    (cursor : Cursor) :
    collect cursor (files.flatMap fun file =>
        .oldSide (file.oldPath.getD []) :: .newSide (file.newPath.getD []) ::
          file.hunks.map .hunk) =
      cursor.toList ++ files := by
  induction files generalizing cursor with
  | nil => simp [collect]
  | cons file files induct =>
      obtain ⟨first, others⟩ := List.forall_mem_cons.mp formed
      obtain ⟨oldSide, newSide, hunks⟩ := file
      obtain ⟨oldPath, rfl, -⟩ := first.oldPath
      obtain ⟨newPath, rfl, -⟩ := first.newPath
      simp [collect, collect_hunks, induct others, Cursor.toList]

/-! ## Whole diffs -/

theorem staysOnLines_of_isWellFormed {file : FileChange} (formed : file.IsWellFormed) :
    file.StaysOnLines := by
  have named {side : Option Text} (printable : ∃ path ∈ side, IsPrintablePath path) :
      ∀ path ∈ side, IsOneLine path := by
    obtain ⟨path, rfl, printable⟩ := printable
    intro other isOther
    obtain rfl := Option.mem_some.mp isOther
    exact printable.isOneLine
  refine ⟨named formed.oldPath, named formed.newPath, fun hunk isHunk => ?_⟩
  have formed := formed.hunks hunk isHunk
  exact ⟨formed.isOneLine_heading, formed.isOneLine_content⟩

theorem read_print_of_isWellFormed {diff : Diff} (formed : diff.IsWellFormed) :
    read diff.print = .ok diff := by
  obtain ⟨after, run⟩ := reads_files formed isMet_none
  have stays : ∀ file ∈ diff.files, file.StaysOnLines :=
    fun file isFile => staysOnLines_of_isWellFormed (formed file isFile)
  rw [read_eq_ok_iff, lines_print stays]
  refine ⟨_, after, run, ?_⟩
  rw [groupItems_files, collect_files formed]
  rfl

/-- Every file names both of its sides, and all its hunks agree with their headers. -/
def IsComplete (diff : Diff) : Prop :=
  ∀ file ∈ diff.files,
    (∃ path ∈ file.oldPath, path ≠ []) ∧ (∃ path ∈ file.newPath, path ≠ []) ∧
      ∀ hunk ∈ file.hunks, hunk.isConsistent = true

instance (diff : Diff) : Decidable diff.IsComplete :=
  inferInstanceAs (Decidable (∀ file ∈ diff.files, _ ∧ _ ∧ _))

theorem isWellFormed_of_read {text : Text} {diff : Diff} (found : read text = .ok diff)
    (complete : diff.IsComplete) : diff.IsWellFormed := by
  intro file isFile
  have source := isReadFrom_of_read found file isFile
  obtain ⟨⟨oldPath, isOld, oldNonempty⟩, ⟨newPath, isNew, newNonempty⟩, consistent⟩ :=
    complete file isFile
  refine ⟨⟨oldPath, isOld, (source.oldPath oldPath isOld).isPrintablePath oldNonempty⟩,
    ⟨newPath, isNew, (source.newPath newPath isNew).isPrintablePath newNonempty⟩, ?_⟩
  intro hunk isHunk
  have hunkSource := source.hunks hunk isHunk
  exact ⟨hunkSource.hasPrintableHeader, consistent hunk isHunk, hunkSource.staysOnLines.content⟩

/-- Printing a well-formed diff and reading it back is the identity, and every complete diff that
was read is well-formed, so printing and reading it again changes nothing. -/
theorem read_print :
    (∀ diff : Diff, diff.IsWellFormed → read diff.print = .ok diff) ∧
      ∀ (text : Text) (diff : Diff), read text = .ok diff → diff.IsComplete →
        diff.IsWellFormed ∧ read diff.print = read text := by
  refine ⟨fun diff formed => read_print_of_isWellFormed formed, ?_⟩
  intro text diff found complete
  have formed := isWellFormed_of_read found complete
  exact ⟨formed, (read_print_of_isWellFormed formed).trans found.symm⟩

/-- A new file and a changed one, whose body lines look like the lines that open files and hunks. -/
def lookalikes : Diff where
  files :=
    [{ oldPath := some devNull
       newPath := some "a/b c".toList
       hunks :=
        [{ oldStart := 0, oldCount := 0, newStart := 1, newCount := 2
           lines := [⟨.added, "++ x".toList⟩, ⟨.added, []⟩, ⟨.noNewline, " none".toList⟩] }] },
     { oldPath := some "old".toList
       newPath := some "new".toList
       hunks :=
        [{ oldStart := 7, oldCount := 2, newStart := -7, newCount := 1
           lines :=
            [⟨.removed, "-- x".toList⟩, ⟨.noNewline, []⟩, ⟨.context, "@@ -1 +1 @@".toList⟩]
           heading := "diff --git".toList },
         { oldStart := 9, oldCount := 0, newStart := 9, newCount := 0 }] }]

/-- The same diff as it may be written elsewhere. -/
def lookalikesRespelled : Text :=
  unlines
    ["diff --git".toList, "--- /dev/null\t".toList, "+++ b/a/b c ".toList,
     "@@ -0,0 +1,2 @@".toList, "+++ x".toList, "+".toList, "\\ none".toList, "--- old".toList,
     "+++ b/new\t2024".toList, "@@ -07,2 +-7 @@  diff --git".toList, "--- x".toList, "\\".toList,
     " @@ -1 +1 @@".toList, "@@ -9,0 +9,0 @@".toList, "index".toList]

theorem read_print_lookalikes :
    (lookalikes.IsWellFormed ∧ read lookalikes.print = .ok lookalikes) ∧
      (read lookalikesRespelled = .ok lookalikes ∧ lookalikes.IsComplete) ∧
        lookalikes.IsWellFormed ∧ read lookalikes.print = read lookalikesRespelled := by
  have formed : lookalikes.IsWellFormed := by decide
  have complete : lookalikes.IsComplete := by decide
  have respelled : read lookalikesRespelled = .ok lookalikes := by decide +kernel
  exact ⟨⟨formed, read_print.1 lookalikes formed⟩, ⟨respelled, complete⟩,
    read_print.2 lookalikesRespelled lookalikes respelled complete⟩

end Diff

end Marginalia
