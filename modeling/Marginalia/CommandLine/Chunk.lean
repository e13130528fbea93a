import Marginalia.CommandLine.Form
import Marginalia.CommandLine.Surroundings
import Marginalia.Diff.Chunk
import Marginalia.Diff.Printer
import Marginalia.Settings.Document

/-!
# The command that cuts a diff into chunks

The chunks are listed, and written to a folder if one is named.
-/

namespace Marginalia

namespace CommandLine

namespace Chunk

/-- What the command takes. -/
def form : Form where
  options := [
    { name := "--max-lines".toList, demand := some .integer },
    { name := "--output-dir".toList, demand := some (.vacant .folder) },
    { name := "--help".toList }]
  operands := [{ name := "DIFF_PATH".toList, demand := .existing .file }]

/-- The limit of a chunk: the one of the command line, or else the one of the settings. -/
def limitOf (document : List (Value × Value)) (arguments : Arguments) : Value :=
  match arguments.integer? "--max-lines" with
  | some limit => .integer limit
  | none => (Value.field? "max_lines_per_chunk".toList document).getD .null

/-- Items without repetition, in the order in which they first come. -/
def distinct (items : List Text) : List Text :=
  (Table.tally items).map (·.1)

/-- The paths of the files of a chunk. -/
def pathsOf (chunk : Diff) : List Text :=
  distinct (chunk.files.map fun file => ((file.effectivePath).filter (!·.isEmpty)).getD ['?'])

/-- The row of a chunk. -/
def row (chunk : Diff) (number : Nat) : List Text :=
  [Text.ofInteger number, Text.glue [',', ' '] (pathsOf chunk), Text.ofInteger chunk.hunkCount,
    Text.ofInteger chunk.lineCount]

/-- The table of chunks. -/
def sheet (limit : Value) (chunks : List Diff) : Sheet where
  title :=
    Text.ofInteger chunks.length ++ " chunk(s) of at most ".toList ++ limit.asText ++
      " lines".toList
  columns := [['#'], "Files".toList, "Hunks".toList, "Lines".toList]
  rows := (chunks.zipIdx 1).map fun (chunk, number) => row chunk number

/-- The name of the file of a chunk. -/
def fileName (number : Nat) : Text :=
  "chunk-".toList ++ Text.padLeft 3 '0' (Text.ofInteger number) ++ ".diff".toList

/-- Whether a folder can be made at a path: nothing above it is a file. -/
def canMake (surroundings : Surroundings) (folder : Path) : Bool :=
  (List.range folder.parts.length).all fun count =>
    !(surroundings.standing { folder with parts := folder.parts.take count }.text).isFile

/-- Write chunks into a folder. -/
def writeAll (surroundings : Surroundings) (folder : Path) (chunks : List Diff) :
    Session Unit := do
  if !canMake surroundings folder then Session.stop (.makesBelowFile folder.text)
  else do
    (chunks.zipIdx 1).forM fun (chunk, number) =>
      Session.write (Path.normalize (Path.join folder.text (fileName number))) chunk.print
    Session.say ("[green]Wrote ".toList ++ Text.ofInteger chunks.length ++
      " chunk file(s) to ".toList ++ folder.text ++ "[/green]".toList)

/-- A limit that is no limit: a misuse when it is not positive, and otherwise a failure. -/
def limitStop (fault : Budget.Fault) : Stop :=
  if fault.family = .value then .misuse (.limit fault.message)
  else .broken fault.family fault.message

/-- Cut a diff into chunks. -/
def run (surroundings : Surroundings) (document : List (Value × Value)) (arguments : Arguments) :
    Session Unit := do
  let limit := limitOf document arguments
  let diff ← readDiff surroundings ((arguments.operand 0).headD [])
  let budget ← Session.ofExcept limitStop (Budget.ofValue limit)
  let chunks := diff.chunks budget
  if chunks.isEmpty then
    Session.say "[yellow]The diff has no hunks; nothing to chunk.[/yellow]".toList
  else if !limit.isWritable then Session.stop (.broken .value Text.tooLongToWrite)
  else do
    Session.tabulate (sheet limit chunks)
    match arguments.text? "--output-dir" with
    | none => pure ()
    | some [] => pure ()
    | some folder => writeAll surroundings (Path.ofText folder) chunks

end Chunk

end CommandLine

end Marginalia
