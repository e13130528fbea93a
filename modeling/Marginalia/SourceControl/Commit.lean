import Marginalia.Calendar.Moment
import Marginalia.Text.Blank
import Marginalia.Text.Lines

/-!
# Commits

A commit is read from the log of a source control, which is asked to print one record for each
commit: a record separator, four fields between unit separators, and the changed files on lines of
their own.  Blank records are skipped, missing fields are empty, and further fields are dropped.
-/

namespace Marginalia

/-- A recorded change of a repository. -/
structure Commit where
  /-- What the commit is known by. -/
  id : Text
  /-- What its author said about it. -/
  message : Text := []
  /-- Who made it. -/
  author : Text := []
  /-- When it was made. -/
  timestamp : Option Moment := none
  /-- The files that it changed. -/
  files : List Text := []
deriving DecidableEq, Repr

namespace Commit

/-- Why something is no commit. -/
inductive Fault where
  /-- It is not known by anything. -/
  | blankId
  /-- Its time is no moment. -/
  | timestamp (cause : Moment.Fault)
deriving DecidableEq, Repr

/-- The message of a fault. -/
def Fault.message : Fault → Text
  | .blankId => "commit_id must not be blank".toList
  | .timestamp cause => cause.message

/-- The family of a fault. -/
def Fault.family (_ : Fault) : Family := .value

/-- The commit, when it is known by something. -/
def check (commit : Commit) : Except Fault Commit :=
  if Text.isBlank commit.id then .error .blankId else .ok commit

/-- The character before each record of a log. -/
def recordSeparator : Char := '\x1e'

/-- The character between two fields of a record. -/
def fieldSeparator : Char := '\x1f'

/-- The time of a commit; an empty field gives none. -/
def readTimestamp (field : Text) : Except Fault (Option Moment) :=
  if field.isEmpty then .ok none
  else
    match Moment.read field with
    | .ok moment => .ok (some moment)
    | .error cause => .error (.timestamp cause)

/-- The files of a record: the lines after its first one that are not blank, trimmed. -/
def readFiles (body : Text) : List Text :=
  ((Text.lines body).map Text.trim).filter (!·.isEmpty)

/-- Read a record of a log. -/
def readRecord (record : Text) : Except Fault Commit := do
  let fields := Text.pieces fieldSeparator (Text.before '\n' record)
  let field (index : Nat) : Text := fields.getD index []
  let timestamp ← readTimestamp (field 2)
  check
    { id := Text.trim (field 0)
      message := field 3
      author := field 1
      timestamp
      files := readFiles (Text.after '\n' record) }

/-- Read a log. -/
def readLog (output : Text) : Except Fault (List Commit) :=
  ((Text.pieces recordSeparator output).filter (!Text.isBlank ·)).mapM readRecord

end Commit

end Marginalia
