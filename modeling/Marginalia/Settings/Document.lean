import Marginalia.Text.Utf8
import Marginalia.Value.Overlay
import Marginalia.Yaml.Reader

/-!
# The settings document

The settings of a run are one document: the standard one, over which the configuration file is laid,
then what the command line decides, and last the token of the hosting service, which comes from the
environment alone.  The reader of documents is a parameter; the command line reads YAML without
scalars of further kinds.
-/

namespace Marginalia

namespace Settings

section

variable {Foreign : Type}

/-- A mapping with texts as keys. -/
def record (entries : List (String × Value Foreign)) : Value.Entries Foreign :=
  entries.map fun (name, value) => (.text name.toList, value)

/-- The section of the rollout where nothing else is said. -/
def standardRollout : Value.Entries Foreign :=
  record [
    ("percentage", .integer 100),
    ("skip_large_diffs", .bool true),
    ("max_diff_lines", .integer 5000)]

/-- The section of the history where nothing else is said. -/
def standardHistory : Value.Entries Foreign :=
  record [
    ("lookback_days", .integer 90),
    ("max_results", .integer 100),
    ("high_threshold", .decimal 0.7),
    ("medium_threshold", .decimal 0.4)]

/-- The section of the context where nothing else is said. -/
def standardContext : Value.Entries Foreign :=
  record [
    ("enabled", .bool true),
    ("strategies", .list [.text "metadata-based".toList, .text "git-history".toList]),
    ("strategy_timeout_seconds", .integer 5),
    ("overall_timeout_seconds", .null),
    ("rollout", .mapping standardRollout),
    ("history", .mapping standardHistory)]

/-- The document that counts where nothing else is said. -/
def standardDocument : Value.Entries Foreign :=
  record [
    ("max_lines_per_chunk", .integer 1000),
    ("context", .mapping standardContext)]

end

/-- Why a configuration file is not used. -/
inductive FileFault where
  /-- It is no text. -/
  | noText (cause : Utf8.Fault)
  /-- It is no document. -/
  | noDocument (cause : Refusal)
  /-- It says something, but not as a mapping. -/
  | noMapping (path : Text)
deriving DecidableEq

/-- The family of a fault. -/
def FileFault.family : FileFault → Family
  | .noText _ => .value
  | .noDocument cause => cause.family
  | .noMapping _ => .value

/-- The message of a fault. -/
def FileFault.message : FileFault → Text
  | .noText cause => cause.message
  | .noDocument cause => cause.message
  | .noMapping path => path ++ ": expected a mapping at the top level".toList

section

variable {Foreign : Type} [Scalar Foreign]

/-- The entries of a configuration document; one that says nothing has none. -/
def fileEntries (path : Text) (document : Value Foreign) :
    Except FileFault (Value.Entries Foreign) :=
  if document.isTruthy then
    match document with
    | .mapping entries => .ok entries
    | _ => .error (.noMapping path)
  else .ok []

/-- Read the bytes of a configuration file with a reader of documents. -/
def readFileBy (reader : Text → Except Refusal (Value Foreign)) (path : Text) (bytes : List Nat) :
    Except FileFault (Value.Entries Foreign) := do
  let text ← (Utf8.decode bytes).mapError FileFault.noText
  fileEntries path (← (reader text).mapError FileFault.noDocument)

/-- Decide entries anew, as far as something is decided. -/
def decide (decisions document : Value.Entries Foreign) : Value.Entries Foreign :=
  decisions.foldl
    (fun document (key, value) =>
      match value with
      | .null => document
      | value => Value.put key value document)
    document

omit [Scalar Foreign] in
/-- The token of the environment, as it stands in a document. -/
def tokenValue : Option Text → Value Foreign
  | none => .null
  | some token => .text token

/-- Complete the entries of a configuration file: the standard below, the decisions and the token on
top. -/
def complete (entries decisions : Value.Entries Foreign) (token : Option Text) :
    Value.Entries Foreign :=
  Value.put (.text "github_token".toList) (tokenValue token)
    (decide decisions (Value.overlay standardDocument entries))

/-- The settings document of a run, given the configuration file if there is one and a reader of
documents. -/
def loadBy (reader : Text → Except Refusal (Value Foreign)) (path : Text)
    (file : Option (List Nat)) (decisions : Value.Entries Foreign) (token : Option Text) :
    Except FileFault (Value.Entries Foreign) := do
  let entries ← match file with
    | none => pure []
    | some bytes => readFileBy reader path bytes
  return complete entries decisions token

end

/-- The documents of a configuration file as the command line reads them. -/
def readDocument (text : Text) : Except Refusal Value :=
  (Yaml.read text).mapError fun cause => ⟨cause.family, cause.message⟩

/-- The settings document of a run of the command line. -/
def load (path : Text) (file : Option (List Nat)) (decisions : Value.Entries)
    (token : Option Text) : Except FileFault Value.Entries :=
  loadBy readDocument path file decisions token

end Settings

end Marginalia
