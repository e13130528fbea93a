import Marginalia.Text.Blank
import Marginalia.Text.Word

/-!
# Import statements

A line of a program may name other files: by importing names from a module, by importing a module,
or by quoting where something is to be loaded from.  The three are told apart by the shape of the
line alone, whatever language it is written in.
-/

namespace Marginalia

/-- What a line imports. -/
inductive Import where
  /-- Names from a module. -/
  | fromModule (module : Text) (names : List Text)
  /-- A module. -/
  | wholeModule (name : Text)
  /-- What quoted sources hold. -/
  | quoted (sources : List Text)
deriving DecidableEq, Repr

namespace Import

/-- A character of a module's name. -/
def isModuleChar (char : Char) : Bool :=
  Text.isWordChar char || char = '.'

/-- A character of a list of imported names. -/
def isNamesChar (char : Char) : Bool :=
  Text.isWordChar char || Text.isBlankChar char || char = ',' || char = '*'

/-- A quote. -/
def isQuote (char : Char) : Bool :=
  char = '\x27' || char = '\x22'

/-- The blanks at the head of a text. -/
def blanks (text : Text) : Nat :=
  (text.takeWhile Text.isBlankChar).length

/-- Skip blanks, of which there has to be one at least. -/
def skipBlanks? (text : Text) : Option Text :=
  if blanks text = 0 then none else some (Text.trimLeft text)

/-- The list of names that follows the word for importing.  An opening bracket may stand before it.
Where no name follows, a blank that nothing else needs stands for a list without names. -/
def namesAfter? (text : Text) : Option Text := do
  let rest ← skipBlanks? text
  let (inner, spare) := match rest with
    | '(' :: inner => (Text.trimLeft inner, 1 < blanks text || 0 < blanks inner)
    | _ => (rest, 1 < blanks text)
  let names := inner.takeWhile isNamesChar
  if !names.isEmpty then some names
  else if spare then some []
  else none

/-- The names between the commas of a list. -/
def splitNames (names : Text) : List Text :=
  ((Text.pieces ',' names).map Text.trim).filter (!·.isEmpty)

/-- A module and the names that a line imports from it.  The module may be left out, if two blanks
stand in its place. -/
def fromModule? (line : Text) : Option (Text × List Text) := do
  let after ← "from".toList.isPrefixOf? (Text.trimLeft line)
  let rest ← skipBlanks? after
  let module := rest.takeWhile isModuleChar
  let named := do
    let rest ← skipBlanks? (rest.dropWhile isModuleChar)
    let rest ← "import".toList.isPrefixOf? rest
    namesAfter? rest
  let unnamed := do
    if blanks after < 2 then none
    let rest ← "import".toList.isPrefixOf? rest
    namesAfter? rest
  match named, unnamed with
  | some names, _ => some (module, splitNames names)
  | none, some names => some ([], splitNames names)
  | none, none => none

/-- The module that a line imports; a word for static imports may stand before it. -/
def module? (line : Text) : Option Text := do
  let rest ← "import".toList.isPrefixOf? (Text.trimLeft line)
  let rest ← skipBlanks? rest
  let plain := rest.takeWhile isModuleChar
  let static := do
    let rest ← "static".toList.isPrefixOf? rest
    let rest ← skipBlanks? rest
    let module := rest.takeWhile isModuleChar
    if module.isEmpty then none else some module
  match static with
  | some module => some module
  | none => if plain.isEmpty then none else some plain

/-- A quoted text that is not empty, and what follows it. -/
def quotation? : Text → Option (Text × Text)
  | [] => none
  | quote :: rest =>
      if isQuote quote then
        let body := rest.takeWhile (!isQuote ·)
        match rest.dropWhile (!isQuote ·) with
        | [] => none
        | _ :: tail => if body.isEmpty then none else some (body, tail)
      else none

/-- A quotation after a word for importing, at the head of a text, and what follows it. -/
def sourceHere? (text : Text) : Option (Text × Text) := do
  let rest ← match "from".toList.isPrefixOf? text with
    | some rest => some rest
    | none => "import".toList.isPrefixOf? text
  quotation? (← skipBlanks? rest)

/-- A quotation in the brackets of a call that loads it, at the head of a text, and what follows
it. -/
def loadedHere? (text : Text) : Option (Text × Text) := do
  let rest ← "require(".toList.isPrefixOf? text
  let (source, rest) ← quotation? (Text.trimLeft rest)
  match Text.trimLeft rest with
  | ')' :: tail => some (source, tail)
  | _ => none

/-- All that is found at some place of a text, from the left and without overlap.  While `skip` is
positive, characters of a found piece are being passed over. -/
def scan (here? : Text → Option (Text × Text)) (skip : Nat) : Text → List Text
  | [] => []
  | char :: rest =>
      match skip with
      | skip + 1 => scan here? skip rest
      | 0 =>
          match here? (char :: rest) with
          | none => scan here? 0 rest
          | some (found, tail) => found :: scan here? (rest.length - tail.length) rest

/-- The sources quoted after a word for importing. -/
def quotedSources (line : Text) : List Text := scan sourceHere? 0 line

/-- The sources quoted in a call that loads them. -/
def loadedSources (line : Text) : List Text := scan loadedHere? 0 line

/-- What a line imports. -/
def ofLine (line : Text) : Import :=
  match fromModule? line with
  | some (module, names) => .fromModule module names
  | none =>
      let sources := quotedSources line
      match if sources.isEmpty then module? line else none with
      | some module => .wholeModule module
      | none => .quoted (sources ++ loadedSources line)

end Import

end Marginalia
