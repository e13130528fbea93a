import Marginalia.Value.Convert

/-!
# Reviews

A review has a summary and two kinds of findings: issues, which are meant to be acted upon, and
notes.  Each finding names a file and a line.  The summary is kept as it came, so it may be a value
of any kind; only a text counts as a summary that says something.
-/

namespace Marginalia

/-- A finding that is meant to be acted upon. -/
structure Issue where
  /-- The file that it is about. -/
  file : Text
  /-- The line of the new file that it is about. -/
  line : Option Int
  /-- How grave it is. -/
  severity : Text := "minor".toList
  /-- What is wrong. -/
  title : Text := []
  /-- What could be done. -/
  suggestion : Text := []
  /-- How sure the reviewer is. -/
  score : Option Float := none

/-- A remark in passing. -/
structure Note where
  /-- The file that it is about. -/
  file : Text
  /-- The line of the new file that it is about. -/
  line : Option Int
  /-- What it says. -/
  content : Text := []
deriving DecidableEq

/-- What a reviewer found. -/
structure Review where
  /-- The summary as it came. -/
  summary : Value := .null
  /-- The issues. -/
  issues : List Issue := []
  /-- The notes. -/
  notes : List Note := []

/-- A key of a document with its value. -/
def entry (name : String) (value : Value) : Value × Value :=
  (.text name.toList, value)

/-- A line number as a value. -/
def lineValue (line : Option Int) : Value :=
  (line.map Value.integer).getD .null

/-- The issue as a value.  The score is left out when there is none. -/
def Issue.toValue (issue : Issue) : Value :=
  .mapping <|
    [entry "file" (.text issue.file), entry "start_line" (lineValue issue.line),
      entry "severity" (.text issue.severity), entry "title" (.text issue.title),
      entry "suggestion" (.text issue.suggestion)] ++
    (issue.score.map fun score => entry "confidence_score" (.decimal score)).toList

/-- The note as a value. -/
def Note.toValue (note : Note) : Value :=
  .mapping
    [entry "file" (.text note.file), entry "line" (lineValue note.line),
      entry "text" (.text note.content)]

namespace Review

/-- The review as a value. -/
def toValue (review : Review) : Value :=
  .mapping
    [entry "summary" review.summary,
      entry "issues" (.list (review.issues.map Issue.toValue)),
      entry "non_blocking_notes" (.list (review.notes.map Note.toValue))]

/-- The number of findings. -/
def itemCount (review : Review) : Nat :=
  review.issues.length + review.notes.length

/-- The summary, where it says something.  A value that is neither empty nor a text is refused. -/
def spokenSummary (review : Review) : Except Value.Fault (Option Text) :=
  match review.summary with
  | .text content => .ok (if Text.isBlank content then none else some content)
  | value =>
      if value.isTruthy then .error (.noMember value.kind "strip".toList) else .ok none

/-- Whether the review says anything.  Its summary is looked at only when it has no findings. -/
def hasContent (review : Review) : Except Value.Fault Bool :=
  if review.itemCount = 0 then review.spokenSummary.map (·.isSome) else .ok true

/-- How much the review says. -/
def statistics (review : Review) : Except Value.Fault Text := do
  let summary ← review.spokenSummary
  pure <|
    Text.ofInteger review.issues.length ++ " issue(s), ".toList ++
      Text.ofInteger review.notes.length ++ " note(s), summary: ".toList ++
      if summary.isSome then "present".toList else "absent".toList

end Review

end Marginalia
