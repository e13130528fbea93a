import Marginalia.Diff.Basic
import Marginalia.Family
import Marginalia.Notice
import Marginalia.Text.Lines
import Marginalia.Text.Quoted

/-!
# Reading diffs

A diff is read line by line.  The only thing that earlier lines decide about a later one is how
many lines the open hunk is still owed: while it is owed any, a marked or empty line is body, so
that a removed line that begins with two dashes is not taken for the path of a file.  Once the
counts are met only the remark about a missing line feed still belongs to the hunk.

A line becomes an item, items become entries (paths and whole hunks), and entries become files.
Each step is a recursion on its list.  A line that opens like a hunk header and is none is refused,
since skipping it would shift every later line number.
-/

namespace Marginalia

namespace Diff

/-- Why a header line was refused. -/
inductive HeaderFault where
  /-- The line does not have the form of a header. -/
  | form (line : Text)
  /-- A range is no start with an optional count. -/
  | range (spec : Text)
deriving DecidableEq, Repr

/-- A refused header line. -/
structure Fault where
  /-- The number of the line, from one. -/
  lineNumber : Nat
  /-- What is wrong with it. -/
  cause : HeaderFault
deriving DecidableEq, Repr

/-- The message of a fault. -/
def Fault.message (fault : Fault) : Text :=
  "line ".toList ++ Text.ofInteger fault.lineNumber ++ ": ".toList ++
    match fault.cause with
    | .form line => "malformed hunk header ".toList ++ Text.quoted line
    | .range spec => "malformed hunk range ".toList ++ Text.quoted spec

/-- The family of a fault. -/
def Fault.family (_ : Fault) : Family := .diff

/-- Read a start with an optional count; a missing or empty count is one. -/
def readRange (spec : Text) : Except HeaderFault (Int × Int) :=
  let count := Text.after ',' spec
  match Text.readInteger (Text.before ',' spec),
      if count.isEmpty then .ok 1 else Text.readInteger count with
  | .ok start, .ok count => .ok (start, count)
  | _, _ => .error (.range spec)

/-- Split off the characters up to the next blank; there has to be one at least. -/
def solid? (text : Text) : Option (Text × Text) :=
  let front := text.takeWhile (!Text.isBlankChar ·)
  if front.isEmpty then none else some (front, text.dropWhile (!Text.isBlankChar ·))

/-- The two ranges and the heading of a header line. -/
def headerParts? (line : Text) : Option (Text × Text × Text) := do
  let rest ← "@@ -".toList.isPrefixOf? line
  let (old, rest) ← solid? rest
  let rest ← " +".toList.isPrefixOf? rest
  let (new, rest) ← solid? rest
  let rest ← " @@".toList.isPrefixOf? rest
  pure (old, new, Text.trim rest)

/-- Read a header line as a hunk that has no body yet. -/
def readHeader (line : Text) : Except HeaderFault Hunk :=
  match headerParts? line with
  | none => .error (.form line)
  | some (old, new, heading) => do
      let (oldStart, oldCount) ← readRange old
      let (newStart, newCount) ← readRange new
      pure { oldStart, oldCount, newStart, newCount, heading }

/-- Read the path of one side: up to a tab, without trailing blanks and without the mark of the
side. -/
def readPath (mark : Text) (raw : Text) : Text :=
  let path := Text.trimRight (Text.before '\t' raw)
  if path = devNull then path else (mark.isPrefixOf? path).getD path

/-- The body lines that an open hunk is still owed. -/
structure Owed where
  /-- Lines of the old file. -/
  old : Int
  /-- Lines of the new file. -/
  new : Int
deriving DecidableEq, Repr

namespace Owed

/-- Whether anything is owed. -/
def isUnmet (owed : Owed) : Bool :=
  0 < owed.old || 0 < owed.new

/-- What is owed after a body line. -/
def take (owed : Owed) (kind : LineKind) : Owed where
  old := if kind.inOld then owed.old - 1 else owed.old
  new := if kind.inNew then owed.new - 1 else owed.new

end Owed

/-- What one line of a diff is. -/
inductive Item where
  /-- The path of the old side of a file. -/
  | oldSide (path : Text)
  /-- The path of the new side of a file. -/
  | newSide (path : Text)
  /-- The header of a hunk, as a hunk without body. -/
  | header (hunk : Hunk)
  /-- A body line of the open hunk. -/
  | body (line : BodyLine)
  /-- Anything else; it ends the open hunk. -/
  | other
deriving DecidableEq, Repr

/-- A line as body, while lines are owed: an empty line is empty context. -/
def bodyLine? : Text → Option BodyLine
  | [] => some ⟨.context, []⟩
  | char :: content => (LineKind.ofMark? char).map (⟨·, content⟩)

/-- A line that is not owed to a hunk. -/
def readOutside (isOpen : Bool) (line : Text) : Except HeaderFault Item :=
  match line with
  | '-' :: '-' :: '-' :: ' ' :: raw => .ok (.oldSide (readPath ['a', '/'] raw))
  | '+' :: '+' :: '+' :: ' ' :: raw => .ok (.newSide (readPath ['b', '/'] raw))
  | '@' :: '@' :: _ => (readHeader line).map .header
  | '\\' :: content => .ok (if isOpen then .body ⟨.noNewline, content⟩ else .other)
  | _ => .ok .other

/-- Read a line, given what the open hunk is owed, if a hunk is open. -/
def readItem (owed : Option Owed) (line : Text) : Except HeaderFault Item :=
  match if (owed.map Owed.isUnmet).getD false then bodyLine? line else none with
  | some line => .ok (.body line)
  | none => readOutside owed.isSome line

/-- What the open hunk is owed after an item. -/
def owedAfter (owed : Option Owed) : Item → Option Owed
  | .body line => owed.map (·.take line.kind)
  | .header hunk => some ⟨hunk.oldCount, hunk.newCount⟩
  | _ => none

/-- Read the lines from a line number on. -/
def readItems : Nat → Option Owed → List Text → Except Fault (List Item)
  | _, _, [] => .ok []
  | lineNumber, owed, line :: lines =>
      match readItem owed line with
      | .error cause => .error ⟨lineNumber, cause⟩
      | .ok item => (readItems (lineNumber + 1) (owedAfter owed item) lines).map (item :: ·)

/-- What the files of a diff are made of. -/
inductive Entry where
  /-- The path of the old side of a file. -/
  | oldSide (path : Text)
  /-- The path of the new side of a file. -/
  | newSide (path : Text)
  /-- A hunk with its body. -/
  | hunk (hunk : Hunk)
deriving DecidableEq, Repr

/-- The body lines that open a list of items, and the entries after them. -/
def groupItems : List Item → List BodyLine × List Entry
  | [] => ([], [])
  | .body line :: items =>
      let (lines, entries) := groupItems items
      (line :: lines, entries)
  | .header hunk :: items =>
      let (lines, entries) := groupItems items
      ([], .hunk { hunk with lines } :: entries)
  | .oldSide path :: items => ([], .oldSide path :: (groupItems items).2)
  | .newSide path :: items => ([], .newSide path :: (groupItems items).2)
  | .other :: items => ([], (groupItems items).2)

/-- The file that entries are being collected for. -/
inductive Cursor where
  /-- No file has been named. -/
  | nothing
  /-- An old side has been read, and nothing else of the file. -/
  | announced (oldPath : Text)
  /-- A file of the diff. -/
  | listed (file : FileChange)
deriving DecidableEq, Repr

namespace Cursor

/-- The file under a cursor; one that was only announced is none. -/
def toList : Cursor → List FileChange
  | .listed file => [file]
  | _ => []

/-- The file under a cursor with another hunk. -/
def withHunk (hunk : Hunk) : Cursor → FileChange
  | .nothing => { hunks := [hunk] }
  | .announced oldPath => { oldPath := some oldPath, hunks := [hunk] }
  | .listed file => { file with hunks := file.hunks ++ [hunk] }

end Cursor

/-- Collect entries into files. -/
def collect : Cursor → List Entry → List FileChange
  | cursor, [] => cursor.toList
  | cursor, .oldSide path :: entries => cursor.toList ++ collect (.announced path) entries
  | .announced oldPath, .newSide path :: entries =>
      collect (.listed { oldPath := some oldPath, newPath := some path }) entries
  | cursor, .newSide path :: entries =>
      cursor.toList ++ collect (.listed { newPath := some path }) entries
  | cursor, .hunk hunk :: entries => collect (.listed (cursor.withHunk hunk)) entries

/-- Read a diff from its lines. -/
def ofLines (lines : List Text) : Except Fault Diff :=
  (readItems 1 none lines).map fun items => ⟨collect .nothing (groupItems items).2⟩

/-- Read a diff. -/
def read (text : Text) : Except Fault Diff :=
  ofLines (Text.lines text)

/-- The notice about a hunk that disagrees with its header. -/
def inconsistency (file : FileChange) (hunk : Hunk) : Notice where
  level := .warning
  message :=
    "Hunk ".toList ++ hunk.header ++ " in ".toList ++
      file.effectivePath.getD "None".toList ++
      " does not match its header counts (truncated diff?)".toList

/-- The notices about all hunks that disagree with their headers. -/
def notices (diff : Diff) : List Notice :=
  diff.files.flatMap fun file =>
    (file.hunks.filter (!·.isConsistent)).map (inconsistency file)

end Diff

end Marginalia
