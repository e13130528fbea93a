import Marginalia.Json.Reader
import Marginalia.Yaml.Spot

/-!
# Scalars

A scalar is written plainly, between quotes, or as a block of lines.  Plain and quoted scalars may
run over several lines, and the gap between two of their words is folded: a single line end becomes
a space, and of several line ends the first is left out.

Each reader below returns what the scalar says and the spots after it; a scalar that is not well
formed has no reading.  The readers are bounded by the number of spots, of which each call takes at
least one.
-/

namespace Marginalia

namespace Yaml

/-- What a scalar says, and the spots after it. -/
abbrev Reading := Option (Text × List Spot)

/-- Put a text in front of what a scalar says. -/
def Reading.prepend (text : Text) (reading : Reading) : Reading :=
  reading.map fun (content, rest) => (text ++ content, rest)

/-- What stands between two words of a scalar. -/
structure Gap where
  /-- The blanks before the first line end. -/
  blanks : Text
  /-- The line ends. -/
  breaks : Text
deriving DecidableEq, Repr

namespace Gap

/-- Whether there is anything between the words. -/
def isEmpty (gap : Gap) : Bool :=
  gap.blanks.isEmpty && gap.breaks.isEmpty

/-- What a gap says: blanks within a line stand for themselves, and line ends are folded. -/
def folded (gap : Gap) : Text :=
  match gap.breaks with
  | [] => gap.blanks
  | ['\n'] => [' ']
  | '\n' :: breaks => breaks
  | breaks => breaks

end Gap

/-- The line ends that stand here, with blanks before and between them skipped. -/
def breaksAfter (skips : Char → Bool) : List Spot → Text × List Spot
  | [] => ([], [])
  | spot :: rest =>
      if isBreak spot.char then
        let (breaks, rest) := breaksAfter skips rest
        (lineEnd spot.char :: breaks, rest)
      else if skips spot.char then breaksAfter skips rest
      else ([], spot :: rest)

/-- The gap that stands here, made of the given blanks and of line ends. -/
def gapOf (blank : Char → Bool) (spots : List Spot) : Gap × List Spot :=
  let (blanks, rest) := spanned blank spots
  let (breaks, rest) := breaksAfter blank rest
  ({ blanks, breaks }, rest)

/-! ## Plain scalars -/

/-- Whether a colon before the given spots ends a plain scalar. -/
def colonEnds (inFlow : Bool) (rest : List Spot) : Bool :=
  endsWord rest ||
    (inFlow && match rest with
      | [] => false
      | spot :: _ => [',', '[', ']', '\x7b', '\x7d'].contains spot.char)

/-- The word of a plain scalar that stands here. -/
def plainWord (inFlow : Bool) : List Spot → Text × List Spot
  | [] => ([], [])
  | spot :: rest =>
      if isBlank spot.char || isBreak spot.char ||
          (spot.char = ':' && colonEnds inFlow rest) ||
          (inFlow && [',', '?', '[', ']', '\x7b', '\x7d'].contains spot.char) then
        ([], spot :: rest)
      else
        let (word, rest) := plainWord inFlow rest
        (spot.char :: word, rest)

/-- Whether the plain scalar ends before the given spots, which stand after a gap: at a comment, at
a mark of the document, and where a block is less indented. -/
def plainEnds (inFlow : Bool) (indent : Nat) (spots : List Spot) : Bool :=
  startsWith '#' spots || atMarker spots ||
    (!inFlow && match spots with
      | [] => true
      | spot :: _ => spot.column < indent)

/-- The further words of a plain scalar, with the gaps before them. -/
def plainWords (inFlow : Bool) (indent : Nat) : Nat → List Spot → Text × List Spot
  | 0, spots => ([], spots)
  | bound + 1, spots =>
      let (gap, next) := gapOf (· = ' ') spots
      if gap.isEmpty || plainEnds inFlow indent next then ([], spots)
      else
        match plainWord inFlow next with
        | ([], _) => ([], spots)
        | (word, rest) =>
            let (words, rest) := plainWords inFlow indent bound rest
            (gap.folded ++ word ++ words, rest)

/-- The plain scalar that stands here. -/
def plain (inFlow : Bool) (indent : Nat) (spots : List Spot) : Text × List Spot :=
  let (word, rest) := plainWord inFlow spots
  let (words, rest) := plainWords inFlow indent rest.length rest
  (word ++ words, rest)

/-! ## Quoted scalars -/

/-- The character that a letter after a backslash stands for. -/
def escaped? : Char → Option Char
  | '0' => some '\x00'
  | 'a' => some '\x07'
  | 'b' => some '\x08'
  | 't' => some '\t'
  | '\t' => some '\t'
  | 'n' => some '\n'
  | 'v' => some '\x0b'
  | 'f' => some '\x0c'
  | 'r' => some '\r'
  | 'e' => some '\x1b'
  | ' ' => some ' '
  | '\x22' => some '\x22'
  | '\\' => some '\\'
  | '/' => some '/'
  | 'N' => some '\u0085'
  | '_' => some '\u00a0'
  | 'L' => some '\u2028'
  | 'P' => some '\u2029'
  | _ => none

/-- How many hexadecimal digits follow a letter after a backslash. -/
def escapeWidth? : Char → Option Nat
  | 'x' => some 2
  | 'u' => some 4
  | 'U' => some 8
  | _ => none

/-- The character whose code point is written in the given number of hexadecimal digits. -/
def hexadecimalChar? (width : Nat) (spots : List Spot) : Option Char := do
  let digits := charsOf (spots.take width)
  let code := Text.ofDigits 16 (← digits.mapM Json.hexValue?)
  if digits.length = width && code ≤ 0x10FFFF then some (Json.charOf code) else none

/-- What follows a backslash between double quotes. -/
def escape : List Spot → Reading
  | [] => none
  | spot :: rest =>
      match escaped? spot.char, escapeWidth? spot.char with
      | some char, _ => some ([char], rest)
      | none, some width => do
          let char ← hexadecimalChar? width rest
          some ([char], rest.drop width)
      | none, none =>
          if isBreak spot.char then
            let (breaks, rest) := breaksAfter isBlank rest
            if atMarker rest then none else some (breaks, rest)
          else none

/-- The rest of a quoted scalar; between single quotes, a quote is written twice, between double
quotes a backslash escapes. -/
def quotedRest (quote : Char) : Nat → List Spot → Reading
  | 0, _ => none
  | _ + 1, [] => none
  | bound + 1, spot :: rest =>
      if isBlank spot.char || isBreak spot.char then
        let (gap, next) := gapOf isBlank (spot :: rest)
        if !gap.breaks.isEmpty && atMarker next then none
        else (quotedRest quote bound next).prepend gap.folded
      else if spot.char = quote then
        if quote = '\x27' && startsWith quote rest then
          Reading.prepend [quote] (quotedRest quote bound (rest.drop 1))
        else some ([], rest)
      else if quote = '\x22' && spot.char = '\\' then do
        let (content, rest) ← escape rest
        (quotedRest quote bound rest).prepend content
      else (quotedRest quote bound rest).prepend [spot.char]

/-- The quoted scalar whose opening quote has just been read. -/
def quoted (quote : Char) (spots : List Spot) : Reading :=
  quotedRest quote (spots.length + 1) spots

/-! ## Block scalars -/

/-- What becomes of the line ends after a block. -/
inductive Chomping where
  /-- The last line keeps its end. -/
  | clip
  /-- No line end is left. -/
  | strip
  /-- All line ends are left. -/
  | keep
deriving DecidableEq, Repr

/-- What the first line of a block says about it. -/
structure BlockHeader where
  /-- Whether single line ends become spaces. -/
  isFolded : Bool
  /-- What becomes of the line ends after the block. -/
  chomping : Chomping
  /-- How much further the block is indented than what holds it, if that is said. -/
  increment : Option Nat

/-- The indicator of what becomes of the line ends, if one stands here. -/
def chompingAt : List Spot → Option Chomping × List Spot
  | [] => (none, [])
  | spot :: rest =>
      if spot.char = '+' then (some .keep, rest)
      else if spot.char = '-' then (some .strip, rest)
      else (none, spot :: rest)

/-- The indicator of the indentation, if one stands here; it is never zero. -/
def incrementAt : List Spot → Option (Option Nat × List Spot)
  | [] => some (none, [])
  | spot :: rest =>
      if spot.char = '0' then none
      else if spot.char.isDigit then some (some (spot.char.toNat - 48), rest)
      else some (none, spot :: rest)

/-- The first line of a block, after its mark.  The indicators come in either order. -/
def blockHeader (isFolded : Bool) (spots : List Spot) : Option (BlockHeader × List Spot) := do
  let (before, rest) := chompingAt spots
  let (increment, rest) ← incrementAt rest
  let (after, rest) := if before.isSome || increment.isNone then (none, rest) else chompingAt rest
  let rest ← match rest with
    | [] => some []
    | spot :: _ => if spot.char = ' ' || isBreak spot.char then some rest else none
  let rest ← closeLine (skipComment (skipSpaces rest))
  some ({ isFolded, chomping := (before <|> after).getD .clip, increment }, rest)

/-- The empty lines that stand here, and the greatest column that spaces reach. -/
def leadingBreaks (reach : Nat) : List Spot → Text × Nat × List Spot
  | [] => ([], reach, [])
  | spot :: rest =>
      if isBreak spot.char then
        let (breaks, reach, rest) := leadingBreaks reach rest
        (lineEnd spot.char :: breaks, reach, rest)
      else if spot.char = ' ' then leadingBreaks (max reach (spot.column + 1)) rest
      else ([], reach, spot :: rest)

/-- The empty lines that stand here in a block of the given indentation. -/
def blockBreaks (indent : Nat) : List Spot → Text × List Spot
  | [] => ([], [])
  | spot :: rest =>
      if isBreak spot.char then
        let (breaks, rest) := blockBreaks indent rest
        (lineEnd spot.char :: breaks, rest)
      else if spot.char = ' ' && spot.column < indent then blockBreaks indent rest
      else ([], spot :: rest)

/-- Whether the next line belongs to a block of the given indentation. -/
def continuesBlock (indent : Nat) : List Spot → Bool
  | [] => false
  | spot :: _ => spot.column = indent

/-- Whether the next line begins with a blank. -/
def startsBlank : List Spot → Bool
  | [] => false
  | spot :: _ => isBlank spot.char

/-- What joins two lines of a block. -/
def blockJoint (isFolded : Bool) (broken : Text) (before after : List Spot) (breaks : Text) :
    Text :=
  if isFolded && broken = ['\n'] && !startsBlank before && !startsBlank after then
    if breaks.isEmpty then [' '] else []
  else broken

/-- The lines of a block. -/
def blockLines (header : BlockHeader) (indent : Nat) : Nat → Text → List Spot → Text × List Spot
  | 0, _, spots => ([], spots)
  | bound + 1, breaks, spots =>
      let (content, rest) := spanned (fun char => !isBreak char) spots
      let broken := charsOf (rest.take 1) |>.map lineEnd
      let (further, next) := blockBreaks indent (rest.drop 1)
      if continuesBlock indent next then
        let (lines, last) := blockLines header indent bound further next
        (breaks ++ content ++ blockJoint header.isFolded broken spots next further ++ lines, last)
      else
        let tail := match header.chomping with
          | .strip => []
          | .clip => broken
          | .keep => broken ++ further
        (breaks ++ content ++ tail, next)

/-- The block scalar whose mark has just been read; `least` is the least column it may stand in. -/
def block (isFolded : Bool) (least : Nat) (spots : List Spot) : Reading := do
  let (header, rest) ← blockHeader isFolded spots
  let least := max least 1
  let (indent, breaks, rest) := match header.increment with
    | some increment =>
        let indent := least + increment - 1
        let (breaks, rest) := blockBreaks indent rest
        (indent, breaks, rest)
    | none =>
        let (breaks, reach, rest) := leadingBreaks 0 rest
        (max least reach, breaks, rest)
  if continuesBlock indent rest then some (blockLines header indent (rest.length + 1) breaks rest)
  else some (if header.chomping = .keep then breaks else [], rest)

end Yaml

end Marginalia
