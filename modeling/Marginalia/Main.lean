import Marginalia.CommandLine.Program

/-!
# The outer layer of the program

Files and variables are read before the program runs, and what it reports is printed and written
afterwards, so that the program itself is a function.  Version control commands and hosting services
are out of reach from here: whoever asks for them is told so, and the time, which matters to them
alone, stands still.
-/

namespace Marginalia

namespace CommandLine

/-- What stands at a path of the file system. -/
def lookAt (path : String) : IO Standing := do
  try
    let bytes ← IO.FS.readBinFile path
    return .file (bytes.toList.map UInt8.toNat)
  catch
    | .inappropriateType _ _ _ => return .folder
    | _ => return .nothing

/-- The paths that a word of a command line may name, with the folders above them. -/
def pathsIn (word : Text) : List Text :=
  let paths := [word, Text.after '=' word].filter (!·.isEmpty)
  paths ++ paths.flatMap fun path =>
    let read := Path.ofText path
    (List.range (read.parts.length + 1)).map fun count =>
      { read with parts := read.parts.take count }.text

/-- What stands at each of several paths. -/
def lookAtAll (paths : List Text) : IO (Table Text Standing) :=
  paths.foldlM (fun table path => do
    return table.put path (← lookAt (String.ofList path))) []

/-- The complaint of what is out of reach. -/
def outOfReach : Text :=
  "out of reach from the command line".toList

/-- The surroundings that the process runs in. -/
def surroundingsOf (words : List Text) : IO Surroundings := do
  let lookUp (name : String) : IO (Option Text) := do
    return (← IO.getEnv name).map String.toList
  let configuration ← lookUp "DIFFANCHOR_CONFIG"
  let named := words ++ configuration.toList ++ [standardConfiguration]
  let table ← lookAtAll (named.flatMap pathsIn)
  return {
    standing := fun path => (table.get? path).getD .nothing
    token := ← lookUp "GITHUB_TOKEN"
    configuration
    versionControl := fun _ command =>
      Work.fail (.command { command, status := 127, complaint := outOfReach })
    hosted := fun _ _ => .error { status := 503, complaint := outOfReach }
    now := { date := { year := 1970, month := 1, day := 1 }, offset := some 0 } }

/-- Show a line or a table. -/
def showOn (output : IO.FS.Stream) : Shown → IO Unit
  | .line markup => output.putStrLn (String.ofList markup)
  | .sheet sheet => do
      output.putStrLn (String.ofList sheet.title)
      (sheet.columns :: sheet.rows).forM fun cells =>
        output.putStrLn (String.ofList (Text.glue ['\t'] cells))

/-- Write a file, and the folders above it if they are not there. -/
def writeOut (path content : Text) : IO Unit := do
  IO.FS.createDirAll (String.ofList (Path.ofText path).parent.text)
  IO.FS.writeFile (String.ofList path) (String.ofList content)

/-- Print and write what a report holds. -/
def carryOut (report : Report) : IO Unit := do
  let output ← IO.getStdout
  output.putStr (String.ofList report.output)
  report.shown.forM (showOn output)
  report.written.forM fun (path, content) => writeOut path content

end CommandLine

end Marginalia

open Marginalia CommandLine in
/-- Run the program with the words of the command line. -/
def main (arguments : List String) : IO UInt32 := do
  let words := arguments.map String.toList
  let (result, report) := (program (← surroundingsOf words) words).finish
  carryOut report
  match result with
  | .ok () => return 0
  | .error reason => do
      let message := (reason.message?).getD "invalid configuration".toList
      IO.eprintln (String.ofList ("Error: ".toList ++ message))
      return reason.status.toUInt32
