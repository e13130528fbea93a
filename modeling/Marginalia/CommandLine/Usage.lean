import Marginalia.Text.Numeral
import Marginalia.Text.Quoted

/-!
# Usage

How a command line may be at odds with what a command takes, and what is said about it.
-/

namespace Marginalia

namespace CommandLine

/-- What a path is expected to lead to. -/
inductive PlaceKind where
  /-- A file. -/
  | file
  /-- A folder. -/
  | folder
deriving DecidableEq, Repr

/-- What a message calls a place. -/
def PlaceKind.name : PlaceKind → Text
  | .file => "File".toList
  | .folder => "Directory".toList

/-- What kind of misuse a misuse is. -/
inductive Misuse.Kind where
  /-- The parts of a command line do not go together. -/
  | general
  /-- An option is not used as it has to be. -/
  | option
  /-- A value is not accepted where it stands. -/
  | value
  /-- Something is missing. -/
  | missing
  /-- There is no such option. -/
  | noSuchOption
  /-- There is no such command. -/
  | noSuchCommand
deriving DecidableEq, Repr

/-- How a command line is misused.  The names of options and operands are given as messages show
them. -/
inductive Misuse where
  /-- There is no such option, but perhaps similar ones. -/
  | noSuchOption (name : Text) (similar : List Text)
  /-- An option is not followed by its value. -/
  | noValue (name : Text)
  /-- An option is given a value that it does not take. -/
  | strayValue (name : Text)
  /-- A value is no integer. -/
  | noInteger (hint value : Text)
  /-- There is nothing at a path. -/
  | nothingThere (hint : Text) (place : PlaceKind) (path : Text)
  /-- What stands at a path is of the other kind. -/
  | otherKind (hint : Text) (place : PlaceKind) (path : Text)
  /-- An operand is missing. -/
  | noOperand (hint : Text)
  /-- There are operands that nobody takes. -/
  | strayOperands (words : List Text)
  /-- There is no such command, but perhaps similar ones. -/
  | noSuchCommand (name : Text) (similar : List Text)
  /-- No command is named. -/
  | noCommand
  /-- The limit of a chunk is not accepted. -/
  | limit (message : Text)
  /-- Both or neither of two sources are named. -/
  | notOneSource
  /-- There is no token to open a hosting service with. -/
  | noToken
deriving DecidableEq, Repr

namespace Misuse

/-- The kind of a misuse. -/
def kind : Misuse → Kind
  | .noSuchOption _ _ => .noSuchOption
  | .noValue _ => .option
  | .strayValue _ => .option
  | .noInteger _ _ => .value
  | .nothingThere _ _ _ => .value
  | .otherKind _ _ _ => .value
  | .noOperand _ => .missing
  | .strayOperands _ => .general
  | .noSuchCommand _ _ => .noSuchCommand
  | .noCommand => .general
  | .limit _ => .general
  | .notOneSource => .general
  | .noToken => .general

/-- The message about a value that is not accepted. -/
def refusal (hint reason : Text) : Text :=
  "Invalid value for ".toList ++ hint ++ ": ".toList ++ reason

/-- The question after similar names. -/
def suggestion (word : String) : List Text → Text
  | [] => []
  | [name] => " Did you mean ".toList ++ Text.quoted name ++ ['?']
  | names =>
      " (Possible ".toList ++ word.toList ++ ": ".toList ++
        Text.glue [',', ' ']
          ((names.mergeSort fun left right => !Text.isBefore right left).map Text.quoted) ++
        [')']

/-- The message about a misuse. -/
def message : Misuse → Text
  | .noSuchOption name similar =>
      "No such option ".toList ++ Text.quoted name ++ '.' :: suggestion "options" similar
  | .noValue name => "Option ".toList ++ Text.quoted name ++ " requires an argument.".toList
  | .strayValue name => "Option ".toList ++ Text.quoted name ++ " does not take a value.".toList
  | .noInteger hint value =>
      refusal hint (Text.quoted value ++ " is not a valid integer.".toList)
  | .nothingThere hint place path =>
      refusal hint (place.name ++ ' ' :: Text.quoted path ++ " does not exist.".toList)
  | .otherKind hint .file path =>
      refusal hint ("File ".toList ++ Text.quoted path ++ " is a directory.".toList)
  | .otherKind hint .folder path =>
      refusal hint ("Directory ".toList ++ Text.quoted path ++ " is a file.".toList)
  | .noOperand hint => "Missing argument ".toList ++ hint ++ ['.']
  | .strayOperands words =>
      "Got unexpected extra argument".toList ++ (if words.length = 1 then [] else ['s']) ++
        " (".toList ++ Text.glue [' '] words ++ [')']
  | .noSuchCommand name similar =>
      "No such command ".toList ++ Text.quoted name ++ '.' :: suggestion "commands" similar
  | .noCommand => "Missing command.".toList
  | .limit message => message
  | .notOneSource => "Pass exactly one of --repo or --repo-path.".toList
  | .noToken =>
      "No GitHub token found. Set GITHUB_TOKEN or run `gh auth login` first.\n".toList ++
        "Create a token at https://github.com/settings/tokens".toList

end Misuse

end CommandLine

end Marginalia
