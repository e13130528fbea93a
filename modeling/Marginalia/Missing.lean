import Marginalia.Family
import Marginalia.Text.Basic

/-!
# What must not be missing

Some operations have no answer without one of their inputs, and refuse to start.
-/

namespace Marginalia

/-- An input without which an operation does not start. -/
inductive Missing where
  /-- The text of a diff. -/
  | diffText
  /-- The diff that positions are asked of. -/
  | diff
  /-- The reviews to be merged. -/
  | reviewParts
  /-- The review whose findings are counted. -/
  | reviewResult
  /-- The review whose findings are placed. -/
  | review
  /-- The source control that a retrieval asks. -/
  | sourceControl
  /-- The analyzer that a retrieval asks. -/
  | analyzer
  /-- The hosted repository. -/
  | repository
  /-- The bundle that context is retrieved for. -/
  | bundle
deriving DecidableEq, Repr

namespace Missing

/-- What the message calls the missing input. -/
def name : Missing → Text
  | .diffText => "diff text".toList
  | .diff => "diff".toList
  | .reviewParts => "review parts".toList
  | .reviewResult => "review result".toList
  | .review => "review".toList
  | .sourceControl => "scm".toList
  | .analyzer => "analyzer".toList
  | .repository => "repo".toList
  | .bundle => "bundle".toList

/-- The message about a missing input. -/
def message (missing : Missing) : Text :=
  missing.name ++ " must not be None".toList

/-- The family of a missing input. -/
def family (_ : Missing) : Family := .value

end Missing

/-- The input, when it is there. -/
def given {Input : Type} (missing : Missing) : Option Input → Except Missing Input
  | none => .error missing
  | some input => .ok input

end Marginalia
