import Marginalia.CommandLine.Form
import Marginalia.CommandLine.Surroundings
import Marginalia.Json.Writer
import Marginalia.Review.Merge
import Marginalia.Review.Placement
import Marginalia.Review.Reader
import Marginalia.Text.Markup

/-!
# The command that places findings on a diff

The findings of several files are merged and placed, and the placement is shown in a table or
written as JSON, each inline finding with its position in the diff.
-/

namespace Marginalia

namespace CommandLine

namespace Place

/-- What the command takes. -/
def form : Form where
  options := [{ name := "--json".toList }, { name := "--help".toList }]
  operands := [
    { name := "DIFF_PATH".toList, demand := .existing .file },
    { name := "FINDINGS".toList, demand := .existing .file, isRepeated := true }]

/-- Why a review is not read: a refusal, or a failure of another family than that of values. -/
def reviewStop (path : Text) (family : Family) (message : Text) : Stop :=
  if family = .value then .refused (some (path ++ ": ".toList ++ message))
  else .broken family message

/-- Read a review from a file. -/
def readReview (surroundings : Surroundings) (path : Text) : Session Review :=
  match surroundings.standing path with
  | .file bytes => do
      let text ← Session.ofExcept
        (fun (fault : Utf8.Fault) => reviewStop path .value fault.message) (Utf8.decode bytes)
      Session.ofExcept
        (fun (fault : Review.Fault) => reviewStop path fault.family fault.message)
        (Review.read (some (Text.normalizeNewlines text)))
  | _ => Session.stop (.readsFolder path)

/-! ## JSON -/

/-- A finding as a value, with its position. -/
def withPosition (position : Option Nat) : Value → Value
  | .mapping entries =>
      let place := (position.map fun (place : Nat) => Value.integer place).getD .null
      .mapping (Value.put (.text "position".toList) place entries)
  | value => value

/-- The inline part of a placement as a value. -/
def inlineValue (diff : Diff) (review : Review) : Value :=
  .mapping
    [entry "summary" review.summary,
      entry "issues" (.list (review.issues.map fun issue =>
        withPosition (diff.positionOf? (some issue.file) issue.line) issue.toValue)),
      entry "non_blocking_notes" (.list (review.notes.map fun note =>
        withPosition (diff.positionOf? (some note.file) note.line) note.toValue))]

/-- A placement as a value. -/
def placementValue (diff : Diff) (placement : Placement) : Value :=
  .mapping
    [entry "inline" (inlineValue diff placement.inline),
      entry "fallback" placement.fallback.toValue,
      entry "diagnostics" (.list (placement.diagnostics.map Value.text))]

/-! ## Tables -/

/-- The styles of severities. -/
def styles : Table Text Text :=
  [("critical".toList, "red".toList), ("major".toList, "yellow".toList),
    ("minor".toList, "blue".toList), ("nitpick".toList, "dim".toList)]

/-- The style of a severity. -/
def styleOf (severity : Text) : Text :=
  (styles.get? severity).getD "white".toList

/-- A place in a file. -/
def location (file : Text) (line : Option Int) : Text :=
  file ++ ':' :: lineText line

/-- A position in the diff. -/
def positionText (position : Option Nat) : Text :=
  (position.map fun (place : Nat) => Text.ofInteger place).getD "None".toList

/-- The row of a finding. -/
def row (diff : Diff) (file : Text) (line : Option Int) (severity finding : Text) : List Text :=
  [location file line, positionText (diff.positionOf? (some file) line), severity,
    Text.escapeMarkup finding,
    Text.escapeMarkup (Text.trim (Diff.lineContent (some diff) (some file) line))]

/-- The row of an issue. -/
def issueRow (diff : Diff) (issue : Issue) : List Text :=
  row diff issue.file issue.line
    (Text.styled (styleOf issue.severity) (Text.escapeMarkup issue.severity)) issue.title

/-- The row of a note. -/
def noteRow (diff : Diff) (note : Note) : List Text :=
  row diff note.file note.line "note".toList note.content

/-- The table of the findings that go inline. -/
def sheet (diff : Diff) (review : Review) : Sheet where
  title := "Inline".toList
  columns :=
    ["Location".toList, "Pos".toList, "Severity".toList, "Finding".toList, "Code".toList]
  rows := review.issues.map (issueRow diff) ++ review.notes.map (noteRow diff)

/-- Show a placement. -/
def present (diff : Diff) (review : Review) (placement : Placement) : Session Unit := do
  let statistics ← Session.ofExcept
    (fun (fault : Value.Fault) => .broken fault.family fault.message) review.statistics
  Session.say ("[bold]Merged review:[/bold] ".toList ++ statistics)
  match review.summary with
  | .text (first :: rest) => Session.say (Text.escapeMarkup (first :: rest))
  | _ => pure ()
  if placement.inline.itemCount ≠ 0 then Session.tabulate (sheet diff placement.inline)
  if !placement.diagnostics.isEmpty then do
    Session.say ("\n[yellow]".toList ++ Text.ofInteger placement.diagnostics.length ++
      " finding(s) cannot be placed inline:[/yellow]".toList)
    placement.diagnostics.forM fun diagnostic =>
      Session.say ("  - ".toList ++ Text.escapeMarkup diagnostic)

/-- Place findings on a diff. -/
def run (surroundings : Surroundings) (arguments : Arguments) : Session Unit := do
  let diff ← readDiff surroundings ((arguments.operand 0).headD [])
  let parts ← (arguments.operand 1).mapM (readReview surroundings)
  let review ← Session.ofExcept
    (fun (fault : Value.Fault) => .broken fault.family fault.message)
    (Review.merge (parts.map some))
  let placement := review.place (some diff)
  if arguments.has "--json" then
    Session.print (Json.write (placementValue diff placement))
  else present diff review placement

end Place

end CommandLine

end Marginalia
