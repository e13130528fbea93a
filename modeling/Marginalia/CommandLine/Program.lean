import Marginalia.CommandLine.Chunk
import Marginalia.CommandLine.Place
import Marginalia.CommandLine.Related

/-!
# The program

The first operand of a command line names a command, and what follows it is for the command.  The
settings are loaded after the command is found and before its own words are read.  A command may
also be run alone, with the standard settings.
-/

namespace Marginalia

namespace CommandLine

/-- A command. -/
inductive Command where
  /-- Cut a diff into chunks. -/
  | chunk
  /-- Place findings on a diff. -/
  | place
  /-- List related files. -/
  | related
deriving DecidableEq, Repr

namespace Command

/-- The name of a command. -/
def name : Command → Text
  | .chunk => "chunk".toList
  | .place => "place".toList
  | .related => "context".toList

/-- All commands. -/
def all : List Command := [chunk, place, related]

/-- The command of a name. -/
def ofName? (name : Text) : Option Command :=
  all.find? fun command => command.name = name

/-- What a command takes. -/
def form : Command → Form
  | .chunk => Chunk.form
  | .place => Place.form
  | .related => Related.form

/-- Run a command with what it was given. -/
def run (surroundings : Surroundings) (document : List (Value × Value)) (arguments : Arguments) :
    Command → Session Unit
  | .chunk => Chunk.run surroundings document arguments
  | .place => Place.run surroundings arguments
  | .related => Related.run surroundings document arguments

/-- Run a command with its words. -/
def runWords (surroundings : Surroundings) (document : List (Value × Value)) (words : List Text)
    (command : Command) : Session Unit := do
  let (mentions, words) ← Session.ofExcept .misuse (command.form.sort [] words)
  if ({ mentions } : Arguments).has "--help" then pure ()
  else do
    let arguments ← Session.ofExcept .misuse
      (command.form.accept surroundings.standing mentions words)
    command.run surroundings document arguments

end Command

/-- The name and the version of the program. -/
def versionLine : Text :=
  "diffanchor, version 0.1.0".toList

/-- What stands before the name of a command. -/
def programForm : Form where
  options := [
    { name := "--config".toList, demand := some .text },
    { name := "--verbose".toList, aliases := [['-', 'v']] },
    { name := "--version".toList },
    { name := "--help".toList }]
  mixes := false

/-- The path of the configuration file where none is named. -/
def standardConfiguration : Text :=
  ".diffanchor.yml".toList

/-- A configuration file that is not used, as a reason to stop; what is wrong with a document that
is no well-formed configuration is not worded. -/
def configurationStop (path : Text) (fault : Settings.FileFault) : Stop :=
  if fault.family = .document then .refused none
  else .refused (some ("Invalid configuration in ".toList ++ path ++ ": ".toList ++ fault.message))

/-- The settings document of a run. -/
def loadSettings (surroundings : Surroundings) (path : Text) : Session (List (Value × Value)) := do
  let place := (Path.ofText path).text
  let file ← match surroundings.standing place with
    | .file bytes => pure (some bytes)
    | .folder => Session.stop (.readsFolder place)
    | .nothing => pure none
  Session.ofExcept (configurationStop path) (Settings.load path file [] surroundings.token)

/-- Run the program with the words of its command line. -/
def program (surroundings : Surroundings) (words : List Text) : Session Unit := do
  let (mentions, rest) ← Session.ofExcept .misuse (programForm.sort [] words)
  let arguments : Arguments := { mentions }
  if arguments.has "--version" then Session.print versionLine
  else if arguments.has "--help" then pure ()
  else
    match rest with
    | [] => Session.stop (.misuse .noCommand)
    | name :: words =>
        match Command.ofName? name with
        | none => Session.stop (.misuse (.noSuchCommand name
            (Text.similarTo name (Command.all.map Command.name))))
        | some command => do
            let path := (arguments.text? "--config" <|>
              surroundings.configuration.filter (!·.isEmpty)).getD standardConfiguration
            let document ← loadSettings surroundings path
            command.runWords surroundings document words

/-- Run a command alone. -/
def runAlone (surroundings : Surroundings) (command : Command) (words : List Text) :
    Session Unit :=
  command.runWords surroundings Settings.standardDocument words

end CommandLine

end Marginalia
