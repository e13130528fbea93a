import Marginalia.Text.Lines

/-!
# Characters in their places

The layout of a YAML document carries meaning, so its reader works on characters that know the line
and the column they stand in.  A text is turned into such spots once; from there on reading a part
of a document is a recursion on the spots that are left.
-/

namespace Marginalia

namespace Yaml

/-- A character in its place; all places count from zero. -/
structure Spot where
  /-- The character. -/
  char : Char
  /-- How many characters stand before it. -/
  index : Nat
  /-- How many lines stand before its line. -/
  line : Nat
  /-- How far it stands from the beginning of its line. -/
  column : Nat
deriving DecidableEq, Repr

/-- A character that ends a line. -/
def isBreak (char : Char) : Bool :=
  char = '\n' || char = '\u0085' || char = '\u2028' || char = '\u2029'

/-- A character that separates words within a line. -/
def isBlank (char : Char) : Bool :=
  char = ' ' || char = '\t'

/-- What a line end stands for in a scalar: a separator stands for itself, any other for a line
feed. -/
def lineEnd (char : Char) : Char :=
  if char = '\u0085' then '\n' else char

/-- A character that may stand in a document. -/
def isAllowed (char : Char) : Bool :=
  let code := char.toNat
  char = '\t' || char = '\n' || char = '\r' || (0x20 ≤ code && code ≤ 0x7E) || char = '\u0085' ||
    (0xA0 ≤ code && code ≤ 0xD7FF) || (0xE000 ≤ code && code ≤ 0xFFFD) || 0x10000 ≤ code

/-- The characters of a text in their places, given the place of the first.  A byte order mark
takes no column. -/
def spotsFrom (index line column : Nat) : Text → List Spot
  | [] => []
  | char :: rest =>
      { char, index, line, column } ::
        if isBreak char then spotsFrom (index + 1) (line + 1) 0 rest
        else if char = '\ufeff' then spotsFrom (index + 1) line column rest
        else spotsFrom (index + 1) line (column + 1) rest

/-- The spots of a document; a byte order mark that opens it is no part of it. -/
def spots (text : Text) : List Spot :=
  match spotsFrom 0 0 0 text with
  | [] => []
  | first :: rest => if first.char = '\ufeff' then rest else first :: rest

/-- The characters of spots. -/
def charsOf (spots : List Spot) : Text :=
  spots.map (·.char)

/-- Whether a word has ended: a blank, a line end or nothing follows. -/
def endsWord : List Spot → Bool
  | [] => true
  | spot :: _ => isBlank spot.char || isBreak spot.char

/-- Whether three times the given character stand at the beginning of a line, as a word. -/
def opensWith (mark : Char) : List Spot → Bool
  | first :: second :: third :: rest =>
      first.column = 0 && first.char = mark && second.char = mark && third.char = mark &&
        endsWord rest
  | _ => false

/-- Whether the spots begin with a mark that ends or opens a document. -/
def atMarker (spots : List Spot) : Bool :=
  opensWith '-' spots || opensWith '.' spots

/-- Whether the next character is the given one. -/
def startsWith (char : Char) : List Spot → Bool
  | [] => false
  | spot :: _ => spot.char = char

/-- Skip spaces. -/
def skipSpaces (spots : List Spot) : List Spot :=
  spots.dropWhile (·.char = ' ')

/-- Skip what is left of a line, without its end. -/
def skipLine (spots : List Spot) : List Spot :=
  spots.dropWhile fun spot => !isBreak spot.char

/-- Skip a comment, if one stands here. -/
def skipComment (spots : List Spot) : List Spot :=
  if startsWith '#' spots then skipLine spots else spots

/-- Skip a line end, if nothing else stands here; at the end of the document there is nothing to
skip. -/
def closeLine : List Spot → Option (List Spot)
  | [] => some []
  | spot :: rest => if isBreak spot.char then some rest else none

/-- The leading characters that satisfy a condition, with what follows them. -/
def spanned (accepts : Char → Bool) (spots : List Spot) : Text × List Spot :=
  (charsOf (spots.takeWhile fun spot => accepts spot.char),
    spots.dropWhile fun spot => accepts spot.char)

end Yaml

end Marginalia
