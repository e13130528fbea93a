import Marginalia.Proofs.Except
import Marginalia.Proofs.Text.Blank
import Marginalia.Proofs.Text.Pieces
import Marginalia.SourceControl.Local

/-!
# Printed logs read back

A log that a source control prints for its commits is read as these commits.  Four rules cut a log:
records begin at record separators, the first line of a record ends at the first line feed, its
fields stand between unit separators, and the files stand on lines of their own.  Both separators
are blank, and the record separator ends a line as well; so what keeps the rules apart is that no
field holds a separator or a line feed, that no file holds a character that ends a line, and that
a commit is known by something that is not blank.
-/

namespace Marginalia

open Text

namespace Commit

/-- The characters that tell the fields of a log apart. -/
def logMarks : List Char :=
  [recordSeparator, fieldSeparator, '\n']

/-- The fields of a record. -/
def fieldsLine (id author date subject : Text) : Text :=
  glue [fieldSeparator] [id, author, date, subject]

/-- This is the form in which records are asked for. -/
example : recordSeparator ::
    fieldsLine "%H".toList "%an".toList "%aI".toList "%s".toList = LocalRepository.logFormat := by
  decide

/-- A commit as it stands in a log. -/
structure Logged where
  /-- What the commit is known by. -/
  id : Text
  /-- Who made it. -/
  author : Text
  /-- When it was made, or nothing. -/
  date : Text
  /-- The first line of what its author said about it. -/
  subject : Text
  /-- The files that it changed. -/
  files : List Text
  /-- The commit is known by something. -/
  visible : isBlank id = false
  /-- What it is known by has no blanks around it. -/
  trimmed : trim id = id
  /-- A date is that of a moment. -/
  dated : date ≠ [] → ∃ moment, Moment.read date = .ok moment
  /-- No field holds a mark.  A date and a time of day are written without one, although a moment is
  read whatever stands between the two. -/
  unmarked : ∀ field ∈ [id, author, date, subject], ∀ mark ∈ logMarks, mark ∉ field
  /-- A file is named on one line, with no blanks around its name. -/
  named : ∀ file ∈ files, isBlank file = false ∧ trim file = file ∧ IsOneLine file

namespace Logged

variable (logged : Logged)

/-- The line with the fields of a commit. -/
def header : Text :=
  fieldsLine logged.id logged.author logged.date logged.subject

/-- The lines with the files of a commit, behind a blank one. -/
def listing : Text :=
  if logged.files.isEmpty then [] else '\n' :: unlines logged.files

/-- The record of a commit. -/
def record : Text :=
  logged.header ++ '\n' :: logged.listing

/-- What the source control prints for a commit. -/
def printed : Text :=
  recordSeparator :: logged.record

/-- The commit. -/
def commit : Commit :=
  { id := logged.id
    message := logged.subject
    author := logged.author
    timestamp := (Moment.read logged.date).toOption
    files := logged.files }

/-! ## What no part of a record holds -/

theorem notMem_header {mark : Char} (isMark : mark ∈ logMarks)
    (different : mark ≠ fieldSeparator) : mark ∉ logged.header := by
  intro isIn
  rcases eq_or_exists_of_mem_glue isIn with same | ⟨field, isField, isIn⟩
  · exact different same
  · exact logged.unmarked field isField mark isMark isIn

theorem recordSeparator_notMem_listing : recordSeparator ∉ logged.listing := by
  intro isIn
  rw [listing] at isIn
  split at isIn
  · contradiction
  · simp only [unlines, List.mem_cons, List.mem_flatMap, List.mem_append, List.not_mem_nil,
      or_false] at isIn
    rcases isIn with isFeed | ⟨file, isFile, isIn | isFeed⟩
    · exact absurd isFeed (by decide)
    · exact absurd ((logged.named file isFile).2.2 _ isIn) (by decide)
    · exact absurd isFeed (by decide)

theorem recordSeparator_notMem_record : recordSeparator ∉ logged.record := by
  rw [record, List.mem_append, List.mem_cons, not_or, not_or]
  exact ⟨logged.notMem_header (by decide) (by decide), by decide,
    logged.recordSeparator_notMem_listing⟩

theorem isBlank_record : isBlank logged.record = false := by
  rw [record, header, fieldsLine, glue_cons_of_ne_nil _ (List.cons_ne_nil _ _),
    List.append_assoc, isBlank, List.all_append, ← isBlank, logged.visible, Bool.false_and]

/-! ## Reading a record -/

theorem pieces_header : pieces fieldSeparator logged.header =
    [logged.id, logged.author, logged.date, logged.subject] :=
  pieces_glue (List.cons_ne_nil _ _) fun field isField =>
    logged.unmarked field isField fieldSeparator (by decide)

theorem readTimestamp_date :
    readTimestamp logged.date = .ok (Moment.read logged.date).toOption := by
  by_cases none : logged.date = []
  · rw [none]
    rfl
  · obtain ⟨moment, isRead⟩ := logged.dated none
    rw [readTimestamp, if_neg (by simpa using none), isRead]
    rfl

theorem isSome_timestamp : logged.commit.timestamp.isSome = !logged.date.isEmpty := by
  by_cases none : logged.date = []
  · rw [commit, none]
    rfl
  · obtain ⟨moment, isRead⟩ := logged.dated none
    simp [commit, isRead, none, Except.toOption]

theorem readFiles_listing : readFiles logged.listing = logged.files := by
  have trimmed : logged.files.map trim = logged.files :=
    (List.map_congr_left fun file isFile => (logged.named file isFile).2.1).trans
      (List.map_id' logged.files)
  have visible : logged.files.filter (!·.isEmpty) = logged.files :=
    List.filter_eq_self.mpr fun file isFile => by
      simpa using ne_nil_of_isBlank_eq_false (logged.named file isFile).1
  rw [readFiles, listing]
  split
  · rename_i none
    rw [List.isEmpty_iff.mp none]
    rfl
  · rw [lines_lineFeed, lines_unlines fun file isFile => (logged.named file isFile).2.2,
      List.map_cons, trim_nil, List.filter_cons_of_neg (by simp), trimmed, visible]

/-- A record is read as its commit. -/
theorem readRecord_record : readRecord logged.record = .ok logged.commit := by
  have oneLine : '\n' ∉ logged.header := logged.notMem_header (by decide) (by decide)
  rw [readRecord, record, before_append oneLine, after_append oneLine, pieces_header]
  simp only [List.getD_cons_zero, List.getD_cons_succ]
  rw [readTimestamp_date, readFiles_listing, logged.trimmed]
  exact if_neg (by rw [logged.visible]; decide)

end Logged

/-! ## Reading a log -/

/-- The records of a log are found where they were printed. -/
theorem records_printed (log : List Logged) :
    (pieces recordSeparator (log.flatMap Logged.printed)).filter (!isBlank ·) =
      log.map Logged.record := by
  have cut : pieces recordSeparator ((log.map Logged.record).flatMap (recordSeparator :: ·)) =
      [] :: log.map Logged.record :=
    pieces_flatMap (List.forall_mem_map.mpr fun logged _ => logged.recordSeparator_notMem_record)
  rw [List.flatMap_map] at cut
  rw [show Logged.printed = fun logged => recordSeparator :: logged.record from rfl, cut,
    List.filter_cons_of_neg (by decide), List.filter_eq_self]
  exact List.forall_mem_map.mpr fun logged _ => by rw [logged.isBlank_record]; rfl

/-- A printed log is read as its commits, in order, and those that are dated have a time. -/
theorem readLog_printed (log : List Logged) :
    readLog (log.flatMap Logged.printed) = .ok (log.map Logged.commit) ∧
      log.map (·.commit.timestamp.isSome) = log.map (!·.date.isEmpty) := by
  constructor
  · rw [readLog, records_printed, mapM_eq_ok_iff_forall₂, List.forall₂_map_left_iff,
      List.forall₂_map_right_iff, List.forall₂_same]
    exact fun logged _ => logged.readRecord_record
  · exact List.map_congr_left fun logged _ => logged.isSome_timestamp

/-- A commit without author, date, subject or files. -/
def Logged.bare : Logged where
  id := "ab".toList
  author := []
  date := []
  subject := []
  files := []
  visible := by decide
  trimmed := by decide
  dated := by decide
  named := by decide
  unmarked := by simp [logMarks, recordSeparator, fieldSeparator]

/-- A commit with a blank in the name of a file. -/
def Logged.complete : Logged where
  id := "cd".toList
  author := "C. D.".toList
  date := "2024-01-01T10:00:00+01:00".toList
  subject := "Fix".toList
  files := ["a b.py".toList]
  visible := by decide
  trimmed := by decide
  dated := by decide
  named := by decide
  unmarked := by simp [logMarks, recordSeparator, fieldSeparator]

theorem readLog_printed_bare_complete :
    [Logged.bare, Logged.complete].flatMap Logged.printed =
        "\x1eab\x1f\x1f\x1f\n".toList ++
          "\x1ecd\x1fC. D.\x1f2024-01-01T10:00:00+01:00\x1fFix\n\na b.py\n".toList ∧
      readLog ([Logged.bare, Logged.complete].flatMap Logged.printed) =
        .ok [Logged.bare.commit, Logged.complete.commit] ∧
      Logged.complete.commit.files = ["a b.py".toList] := by
  have read := (readLog_printed [Logged.bare, Logged.complete]).1
  exact ⟨by decide, read, by decide⟩

end Commit

end Marginalia
