import Marginalia.CommandLine.Usage
import Marginalia.Family
import Marginalia.Table

/-!
# Sessions

A command prints, writes files and opens hosting services until it is done or stops.  What it did
before it stopped stays done, so a session keeps its report next to its result.
-/

namespace Marginalia

namespace CommandLine

/-- A table on a screen. -/
structure Sheet where
  /-- What stands above it. -/
  title : Text
  /-- The heads of its columns. -/
  columns : List Text
  /-- Its rows, with markup. -/
  rows : List (List Text)
deriving DecidableEq, Repr

/-- Something that is shown on a screen. -/
inductive Shown where
  /-- A line, with markup. -/
  | line (markup : Text)
  /-- A table. -/
  | sheet (sheet : Sheet)
deriving DecidableEq, Repr

/-- What a command did. -/
structure Report where
  /-- What it printed for other programs. -/
  output : Text := []
  /-- What it showed on a screen. -/
  shown : List Shown := []
  /-- The files that it wrote. -/
  written : Table Text Text := []
  /-- The hosted repositories that it opened, with the tokens. -/
  opened : List (Text × Text) := []
deriving DecidableEq, Repr

/-- Why a command stops before it is done. -/
inductive Stop where
  /-- Its command line is misused. -/
  | misuse (cause : Misuse)
  /-- It cannot do what it was asked to; a malformed document is refused without a word. -/
  | refused (message : Option Text)
  /-- Something in it failed that it does not expect to fail. -/
  | broken (family : Family) (message : Text)
  /-- A folder stands where a file is to be read. -/
  | readsFolder (path : Text)
  /-- A file stands where a folder is to be made. -/
  | makesBelowFile (path : Text)
deriving DecidableEq, Repr

namespace Stop

/-- The status with which a command ends that stops. -/
def status : Stop → Nat
  | .misuse _ => 2
  | _ => 1

/-- What a command says when it stops. -/
def message? : Stop → Option Text
  | .misuse cause => some cause.message
  | .refused message => message
  | .broken _ message => some message
  | .readsFolder path => some ("[Errno 21] Is a directory: ".toList ++ Text.quoted path)
  | .makesBelowFile path => some ("[Errno 20] Not a directory: ".toList ++ Text.quoted path)

end Stop

/-- Something that a command does. -/
abbrev Session := ExceptT Stop (StateM Report)

namespace Session

/-- Stop. -/
def stop {Result : Type} (reason : Stop) : Session Result :=
  throw reason

/-- Go on with a result, or stop. -/
def ofExcept {Fault Result : Type} (reason : Fault → Stop) : Except Fault Result → Session Result
  | .ok result => pure result
  | .error fault => stop (reason fault)

/-- Show a line. -/
def say (markup : Text) : Session Unit :=
  modify fun report => { report with shown := report.shown ++ [.line markup] }

/-- Show a table. -/
def tabulate (sheet : Sheet) : Session Unit :=
  modify fun report => { report with shown := report.shown ++ [.sheet sheet] }

/-- Print lines for other programs. -/
def print (text : Text) : Session Unit :=
  modify fun report => { report with output := report.output ++ text ++ ['\n'] }

/-- Write a file. -/
def write (path content : Text) : Session Unit :=
  modify fun report => { report with written := report.written.put path content }

/-- Note that a hosted repository is opened. -/
def noteOpened (repository token : Text) : Session Unit :=
  modify fun report => { report with opened := report.opened ++ [(repository, token)] }

/-- What becomes of a session, and what it did. -/
def finish (session : Session Unit) : Except Stop Unit × Report :=
  session.run.run {}

end Session

end CommandLine

end Marginalia
