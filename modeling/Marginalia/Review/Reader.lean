import Marginalia.Json.Reader
import Marginalia.Review.Basic
import Marginalia.Text.Lowercase

/-!
# Reading reviews

A review is read from a value, and a value from the answer of a language model, which may put a
fence around it or talk before and after it.  The spelling of keys varies, and so does the kind of
what stands under them: texts are made of anything, a line that is no number is no line, and only a
score has to be a number.
-/

namespace Marginalia

/-- The first value among several keys that is there and is not null. -/
def firstField? (names : List String) (entries : List (Value × Value)) : Option Value :=
  names.findSome? fun name =>
    match Value.field? name.toList entries with
    | some .null => none
    | found => found

/-- The text under the first of several keys. -/
def textField (names : List String) (absent : String) (entries : List (Value × Value)) : Text :=
  ((firstField? names entries).map (·.asText)).getD absent.toList

/-- The line number that a value stands for.  Only an infinity is refused; any other value that is
no number is no line. -/
def readLineNumber : Option Value → Except Value.Fault (Option Int)
  | none => .ok none
  | some value =>
      match value.toInteger with
      | .ok number => .ok (some number)
      | .error .integerFromInfinity => .error .integerFromInfinity
      | .error _ => .ok none

/-- Read an issue. -/
def Issue.ofValue (value : Value) : Except Value.Fault Issue := do
  let entries ← value.entries
  let line ← readLineNumber (firstField? ["start_line", "startLine", "line"] entries)
  let score ← (firstField? ["confidence_score", "confidenceScore"] entries).mapM (·.toDecimal)
  pure
    { file := textField ["file", "path"] "" entries
      line
      severity := Text.lowercase (textField ["severity"] "minor" entries)
      title := textField ["title", "comment"] "" entries
      suggestion := textField ["suggestion"] "" entries
      score }

/-- Read a note. -/
def Note.ofValue (value : Value) : Except Value.Fault Note := do
  let entries ← value.entries
  let line ← readLineNumber (firstField? ["line", "start_line", "startLine"] entries)
  pure
    { file := textField ["file", "path"] "" entries
      line
      content := textField ["text", "note", "comment"] "" entries }

namespace Review

/-- Why a review was not read. -/
inductive Fault where
  /-- There is no text, or a blank one. -/
  | empty
  /-- The text is no JSON text, and holds nothing that could be an object. -/
  | noObject (text : Text) (cause : Json.Fault)
  /-- What could be an object is none. -/
  | unreadable (text : Text) (cause : Json.Fault)
  /-- An integer with too many digits. -/
  | numeralTooLong (digits : Nat)
  /-- A bracket that is nested too deep. -/
  | tooDeep (opening : Char)
  /-- The value is no mapping. -/
  | notObject (kind : Kind)
  /-- The findings are no list. -/
  | notList (key : Text) (kind : Kind)
  /-- A finding is no mapping. -/
  | notEntry (key : Text) (index : Nat) (kind : Kind)
  /-- A field of a finding cannot be used. -/
  | field (cause : Value.Fault)

/-- The family of a fault. -/
def Fault.family : Fault → Family
  | .tooDeep opening => (Json.Fault.tooDeep opening).family
  | .field cause => cause.family
  | _ => .value

/-- The message of a fault. -/
def Fault.message : Fault → Text
  | .empty => "review JSON must not be empty".toList
  | .noObject text cause => "no JSON object found: ".toList ++ cause.message text
  | .unreadable text cause => "could not parse review JSON: ".toList ++ cause.message text
  | .numeralTooLong digits => Value.tooLongMessage digits
  | .tooDeep opening => Json.tooDeepMessage opening
  | .notObject kind => "expected a JSON object, got ".toList ++ kind.name
  | .notList key kind =>
      Text.quoted key ++ " must be a list, got ".toList ++ kind.name
  | .notEntry key index kind =>
      Text.quoted key ++ '[' :: Text.ofInteger index ++ "] must be an object, got ".toList ++
        kind.name
  | .field cause => cause.message

/-- The first item from an index on that is no mapping. -/
def strayEntry? (key : Text) : Nat → List Value → Option Fault
  | _, [] => none
  | index, item :: items =>
      match item with
      | .mapping _ => strayEntry? key (index + 1) items
      | _ => some (.notEntry key index item.kind)

/-- The list of findings under a key; nothing counts as an empty list. -/
def findings (key : Text) : Option Value → Except Fault (List Value)
  | none => .ok []
  | some .null => .ok []
  | some (.list items) =>
      match strayEntry? key 0 items with
      | some fault => .error fault
      | none => .ok items
  | some value => .error (.notList key value.kind)

/-- Read all of several findings. -/
def readAll {Finding : Type} (read : Value → Except Value.Fault Finding) (items : List Value) :
    Except Fault (List Finding) :=
  match items.mapM read with
  | .ok findings => .ok findings
  | .error cause => .error (.field cause)

/-- Read a review from a value. -/
def ofValue : Value → Except Fault Review
  | .mapping entries => do
      let issues ← findings "issues".toList (Value.field? "issues".toList entries)
      let issues ← readAll Issue.ofValue issues
      let notes ← findings "notes".toList
        (firstField? ["non_blocking_notes", "nonBlockingNotes", "notes"] entries)
      let notes ← readAll Note.ofValue notes
      pure { summary := (Value.field? "summary".toList entries).getD .null, issues, notes }
  | value => .error (.notObject value.kind)

/-- The line that opens and closes a fenced block. -/
def fence : Text := ['\x60', '\x60', '\x60']

/-- The text without a fence that opens it, and without the word for the format after that. -/
def withoutOpening (text : Text) : Text :=
  match fence.isPrefixOf? text with
  | none => text
  | some rest => Text.trimLeft (("json".toList.isPrefixOf? rest).getD rest)

/-- The text without a fence that closes it. -/
def withoutClosing (text : Text) : Text :=
  match fence.isPrefixOf? text.reverse with
  | none => text
  | some rest => Text.trimRight rest.reverse

/-- The text inside a fence. -/
def unfenced (text : Text) : Text :=
  withoutClosing (Text.trim (withoutOpening (Text.trim text)))

/-- The text from the first opening brace to the last closing one, where that is not empty. -/
def braced? (text : Text) : Option Text :=
  let fromBrace := text.dropWhile (· ≠ '\x7b')
  let body := (fromBrace.reverse.dropWhile (· ≠ '\x7d')).reverse
  if body.isEmpty then none else some body

/-- The value of a JSON text, given what is done with one that is none.  A text with too long an
integer or with brackets nested too deep is given up. -/
def readOr (otherwise : Json.Fault → Except Fault Value) (text : Text) (nesting : Nat) :
    Except Fault Value :=
  match Json.read text nesting with
  | .ok value => .ok value
  | .error (.numeralTooLong digits) => .error (.numeralTooLong digits)
  | .error (.tooDeep opening) => .error (.tooDeep opening)
  | .error cause => otherwise cause

/-- The value between the outermost braces of a text that is no JSON text itself. -/
def search (text : Text) (nesting : Nat) (cause : Json.Fault) : Except Fault Value :=
  match braced? text with
  | none => .error (.noObject text cause)
  | some body => readOr (fun cause => .error (.unreadable body cause)) body nesting

/-- The value in the answer of a language model, given how deep arrays and objects may be nested. -/
def document (raw : Option Text) (nesting : Nat := Json.standardNesting) : Except Fault Value :=
  match raw with
  | none => .error .empty
  | some raw =>
      if Text.isBlank raw then .error .empty
      else readOr (search (unfenced raw) nesting) (unfenced raw) nesting

/-- Read a review from the answer of a language model, given how deep arrays and objects may be
nested. -/
def read (raw : Option Text) (nesting : Nat := Json.standardNesting) : Except Fault Review := do
  ofValue (← document raw nesting)

end Review

end Marginalia
