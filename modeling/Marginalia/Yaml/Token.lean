import Marginalia.Text.Utf8
import Marginalia.Yaml.Scalar

/-!
# Tokens

The tokens of a document show its structure: where collections begin and end, what is a key and
what a value.  In a block this follows from the columns.  A key is known as such only when the colon
after it is met, so the scan remembers, for each open flow collection and for the block around them,
where a key may have begun, and puts the tokens that announce it there afterwards.
-/

namespace Marginalia

namespace Yaml

/-- A part of a document. -/
inductive Token where
  /-- The declaration of the version of the format. -/
  | version (major : Nat)
  /-- The declaration of a handle for tags. -/
  | tagHandle (handle expansion : Text)
  /-- A declaration without effect. -/
  | reserved
  /-- A mark that opens a document. -/
  | documentStart
  /-- A mark that ends a document. -/
  | documentEnd
  /-- The beginning of a block sequence. -/
  | blockSequence
  /-- The beginning of a block mapping. -/
  | blockMapping
  /-- The end of a block collection. -/
  | blockEnd
  /-- The beginning of a flow sequence. -/
  | openSequence
  /-- The end of a flow sequence. -/
  | closeSequence
  /-- The beginning of a flow mapping. -/
  | openMapping
  /-- The end of a flow mapping. -/
  | closeMapping
  /-- The dash of a block sequence. -/
  | blockEntry
  /-- The comma of a flow collection. -/
  | flowEntry
  /-- A key follows. -/
  | key
  /-- A value follows. -/
  | value
  /-- The node of that name stands here once more. -/
  | alias (name : Text)
  /-- The next node has a name. -/
  | anchor (name : Text)
  /-- The next node has a tag. -/
  | tag (handle : Option Text) (ending : Text)
  /-- A scalar. -/
  | scalar (content : Text) (isPlain : Bool)
deriving DecidableEq, Repr

/-- A place where a key may have begun. -/
structure Candidate where
  /-- How many tokens stand before it. -/
  position : Nat
  /-- Whether nothing but a key can stand there. -/
  isRequired : Bool
  /-- The place. -/
  spot : Spot

/-- How far a colon may be from the beginning of its key. -/
def keyReach : Nat := 1024

/-- The state of a scan. -/
structure Scan where
  /-- What is left of the document. -/
  rest : List Spot
  /-- The tokens so far, the last one first. -/
  tokens : List Token := []
  /-- The columns of the open block collections, the innermost first. -/
  indents : List Nat := []
  /-- Whether a key may begin here. -/
  allowsKey : Bool := true
  /-- Where the key of the innermost collection may have begun. -/
  candidate : Option Candidate := none
  /-- The same for the collections around the open flow collections, the innermost first. -/
  outer : List (Option Candidate) := []

namespace Scan

/-- Whether a flow collection is open. -/
def inFlow (scan : Scan) : Bool :=
  !scan.outer.isEmpty

/-- The least column of what belongs to the innermost block collection. -/
def leastColumn (scan : Scan) : Nat :=
  match scan.indents with
  | [] => 0
  | indent :: _ => indent + 1

/-- Add a token and go on after what it was read from. -/
def emit (token : Token) (rest : List Spot) (scan : Scan) : Scan :=
  { scan with tokens := token :: scan.tokens, rest }

/-- Put tokens where the given number of tokens stands before them; the last of them first. -/
def insert (position : Nat) (added : List Token) (scan : Scan) : Scan :=
  let later := scan.tokens.length - position
  { scan with tokens := scan.tokens.take later ++ added ++ scan.tokens.drop later }

/-- Leave the block collections that are indented further than the given column. -/
def unwind (column : Nat) (scan : Scan) : Scan :=
  if scan.inFlow then scan
  else
    let closed := scan.indents.takeWhile (column < ·)
    { scan with
      indents := scan.indents.drop closed.length
      tokens := List.replicate closed.length .blockEnd ++ scan.tokens }

/-- Leave all block collections. -/
def unwindAll (scan : Scan) : Scan :=
  if scan.inFlow then scan
  else
    { scan with
      indents := []
      tokens := List.replicate scan.indents.length .blockEnd ++ scan.tokens }

/-- Whether a block collection that begins in a column is a new one. -/
def opensBlock (column : Nat) (scan : Scan) : Bool :=
  scan.leastColumn ≤ column

/-- Give up the place where a key may have begun; a required key is missed. -/
def giveUp (scan : Scan) : Option Scan :=
  match scan.candidate with
  | some candidate => if candidate.isRequired then none else some { scan with candidate := none }
  | none => some scan

/-- A place where a key may have begun, as it is seen from further on: a key does not run over a
line end, and is not longer than a key may be. -/
def refresh (here : Spot) (candidate : Option Candidate) : Option (Option Candidate) :=
  match candidate with
  | none => some none
  | some candidate =>
      if candidate.spot.line ≠ here.line || candidate.spot.index + keyReach < here.index then
        if candidate.isRequired then none else some none
      else some (some candidate)

/-- Give up the places that are too far behind. -/
def refreshAll (here : Spot) (scan : Scan) : Option Scan := do
  let candidate ← refresh here scan.candidate
  let outer ← scan.outer.mapM (refresh here)
  some { scan with candidate, outer }

/-- Remember that a key may begin here. -/
def remember (here : Spot) (scan : Scan) : Option Scan :=
  if scan.allowsKey then do
    let scan ← scan.giveUp
    let isRequired := !scan.inFlow && scan.indents.head? = some here.column
    some { scan with
      candidate := some { position := scan.tokens.length, isRequired, spot := here } }
  else some scan

/-! ## Between tokens -/

/-- What follows blanks, comments and line ends, and whether a line end was passed. -/
def passOver (inComment : Bool) : List Spot → Bool × List Spot
  | [] => (false, [])
  | spot :: rest =>
      if isBreak spot.char then (true, (passOver false rest).2)
      else if inComment || spot.char = ' ' then passOver inComment rest
      else if spot.char = '#' then passOver true rest
      else (false, spot :: rest)

/-- Go to the next token.  In a block, a key may begin on a new line. -/
def advance (scan : Scan) : Scan :=
  let (crossed, rest) := passOver false scan.rest
  { scan with rest, allowsKey := scan.allowsKey || (crossed && !scan.inFlow) }

/-! ## Structure -/

/-- The tokens at the beginning of a line that stand outside of every block. -/
def outside (scan : Scan) : Option Scan := do
  let scan ← scan.unwindAll.giveUp
  some { scan with allowsKey := false }

/-- Open a flow collection. -/
def openFlow (token : Token) (here : Spot) (rest : List Spot) (scan : Scan) : Option Scan := do
  let scan ← scan.remember here
  let scan := scan.emit token rest
  some { scan with
    outer := scan.candidate :: scan.outer
    candidate := none
    allowsKey := true }

/-- Close a flow collection. -/
def closeFlow (token : Token) (rest : List Spot) (scan : Scan) : Option Scan :=
  match scan.outer with
  | [] => none
  | candidate :: outer =>
      some { scan.emit token rest with candidate, outer, allowsKey := false }

/-- Separate the items of a flow collection. -/
def separate (rest : List Spot) (scan : Scan) : Option Scan := do
  let scan ← scan.giveUp
  some { scan.emit .flowEntry rest with allowsKey := true }

/-- Begin a block collection in a column, unless it has begun before; in a flow collection there is
nothing to begin. -/
def beginBlock (token : Token) (here : Spot) (scan : Scan) : Option Scan :=
  if scan.inFlow then some scan
  else if !scan.allowsKey then none
  else if scan.opensBlock here.column then
    some { scan with indents := here.column :: scan.indents, tokens := token :: scan.tokens }
  else some scan

/-- The dash of an item. -/
def item (here : Spot) (rest : List Spot) (scan : Scan) : Option Scan := do
  let scan ← (← scan.beginBlock .blockSequence here).giveUp
  some { scan.emit .blockEntry rest with allowsKey := true }

/-- The mark of a key. -/
def markKey (here : Spot) (rest : List Spot) (scan : Scan) : Option Scan := do
  let scan ← (← scan.beginBlock .blockMapping here).giveUp
  some { scan.emit .key rest with allowsKey := !scan.inFlow }

/-- The colon of a value.  Where a key may have begun, it has begun. -/
def markValue (here : Spot) (rest : List Spot) (scan : Scan) : Option Scan :=
  match scan.candidate with
  | some candidate =>
      let column := candidate.spot.column
      let scan :=
        if !scan.inFlow && scan.opensBlock column then
          { scan.insert candidate.position [.key, .blockMapping] with
            indents := column :: scan.indents }
        else scan.insert candidate.position [.key]
      some { scan.emit .value rest with candidate := none, allowsKey := false }
  | none => do
      let scan ← scan.beginBlock .blockMapping here
      some { scan.emit .value rest with allowsKey := !scan.inFlow }

/-! ## Names and tags -/

/-- A character of a name. -/
def isNameChar (char : Char) : Bool :=
  char.isAlphanum || char = '-' || char = '_'

/-- A name that is not empty. -/
def name (spots : List Spot) : Reading :=
  match spanned isNameChar spots with
  | ([], _) => none
  | (name, rest) => some (name, rest)

/-- The name of a node. -/
def nodeName (spots : List Spot) : Reading := do
  let (name, rest) ← name spots
  match rest with
  | [] => some (name, [])
  | spot :: _ =>
      if endsWord rest || ['?', ':', ',', ']', '\x7d', '%', '@', '\x60'].contains spot.char then
        some (name, rest)
      else none

/-- Whether a tag or a declaration ends here: at a space, a line end or the end. -/
def endsTag : List Spot → Bool
  | [] => true
  | spot :: _ => spot.char = ' ' || isBreak spot.char

/-- A character of a tag. -/
def isTagChar (char : Char) : Bool :=
  char.isAlphanum || "-;/?:@&=+$,_.!~*'()[]".toList.contains char

/-- The bytes that stand here, each as a percent sign and two hexadecimal digits. -/
def escapedBytes : List Spot → Option (List Nat × List Spot)
  | [] => some ([], [])
  | first :: rest =>
      if first.char ≠ '%' then some ([], first :: rest)
      else
        match rest with
        | high :: low :: rest => do
            let high ← Json.hexValue? high.char
            let low ← Json.hexValue? low.char
            let (bytes, rest) ← escapedBytes rest
            some ((high * 16 + low) :: bytes, rest)
        | _ => none

/-- The ending of a tag, which may be empty. -/
def tagEndingPart : Nat → List Spot → Reading
  | 0, spots => some ([], spots)
  | bound + 1, spots => do
      let (part, rest) := spanned isTagChar spots
      if startsWith '%' rest then
        let (bytes, rest) ← escapedBytes rest
        let chars ← (Utf8.decode bytes).toOption
        (tagEndingPart bound rest).prepend (part ++ chars)
      else some (part, rest)

/-- The ending of a tag. -/
def tagEnding (spots : List Spot) : Reading := do
  let (ending, rest) ← tagEndingPart (spots.length + 1) spots
  if ending.isEmpty then none else some (ending, rest)

/-- A handle of tags, from its exclamation mark on; alone or around a name. -/
def tagHandle : List Spot → Reading
  | [] => none
  | first :: rest =>
      if first.char ≠ '!' then none
      else if startsWith ' ' rest then some (['!'], rest)
      else
        let (name, rest) := spanned isNameChar rest
        if startsWith '!' rest then some ('!' :: name ++ ['!'], rest.drop 1) else none

/-- A tag, after its exclamation mark: in full between angles, with a handle, or none at all. -/
def tag (here : Spot) (rest : List Spot) : Option (Token × List Spot) := do
  let (token, rest) ←
    if startsWith '<' rest then do
      let (ending, rest) ← tagEnding (rest.drop 1)
      if startsWith '>' rest then some (Token.tag none ending, rest.drop 1) else none
    else if endsWord rest then some (Token.tag none ['!'], rest)
    else do
      let word := rest.takeWhile fun spot => !(spot.char = ' ' || isBreak spot.char)
      let (handle, rest) ←
        if word.any (·.char = '!') then tagHandle (here :: rest) else some (['!'], rest)
      let (ending, rest) ← tagEnding rest
      some (Token.tag (some handle) ending, rest)
  if endsTag rest then some (token, rest) else none

/-! ## Declarations -/

/-- The number that stands here. -/
def number (spots : List Spot) : Option (Nat × List Spot) :=
  match spanned Char.isDigit spots with
  | ([], _) => none
  | (digits, rest) => some (Text.ofDigits 10 (digits.map fun char => char.toNat - 48), rest)

/-- A declaration, after its percent sign. -/
def declaration (spots : List Spot) : Option (Token × List Spot) := do
  let (name, rest) ← name spots
  if !endsTag rest then none
  else do
    let (token, rest) ←
      if name = "YAML".toList then do
        let (major, rest) ← number (skipSpaces rest)
        if !startsWith '.' rest then none
        else do
          let (_, rest) ← number (rest.drop 1)
          if endsTag rest then some (Token.version major, rest) else none
      else if name = "TAG".toList then do
        let (handle, rest) ← tagHandle (skipSpaces rest)
        if !startsWith ' ' rest then none
        else do
          let (expansion, rest) ← tagEnding (skipSpaces rest)
          if endsTag rest then some (Token.tagHandle handle expansion, rest) else none
      else some (Token.reserved, skipLine rest)
    some (token, ← closeLine (skipComment (skipSpaces rest)))

/-! ## The scan -/

/-- A node that a key may consist of. -/
def node (token : Token) (here : Spot) (rest : List Spot) (scan : Scan) : Option Scan := do
  let scan ← scan.remember here
  some { scan.emit token rest with allowsKey := false }

/-- Whether a plain scalar may begin with a character before the given spots. -/
def beginsPlain (inFlow : Bool) (char : Char) (rest : List Spot) : Bool :=
  !(isBlank char || isBreak char || "-?:,[]\x7b\x7d#&*!|>'\"%@`".toList.contains char) ||
    (!endsWord rest && (char = '-' || (!inFlow && (char = '?' || char = ':'))))

/-- Read the token that begins with the given character. -/
def read (here : Spot) (rest : List Spot) (scan : Scan) : Option Scan :=
  if here.column = 0 && here.char = '%' then do
    let scan ← scan.outside
    let (token, rest) ← declaration rest
    some (scan.emit token rest)
  else if opensWith '-' (here :: rest) then do
    some ((← scan.outside).emit .documentStart (rest.drop 2))
  else if opensWith '.' (here :: rest) then do
    some ((← scan.outside).emit .documentEnd (rest.drop 2))
  else
    match here.char with
    | '[' => scan.openFlow .openSequence here rest
    | '\x7b' => scan.openFlow .openMapping here rest
    | ']' => do (← scan.giveUp).closeFlow .closeSequence rest
    | '\x7d' => do (← scan.giveUp).closeFlow .closeMapping rest
    | ',' => scan.separate rest
    | '*' => do
        let (name, rest) ← nodeName rest
        scan.node (.alias name) here rest
    | '&' => do
        let (name, rest) ← nodeName rest
        scan.node (.anchor name) here rest
    | '!' => do
        let (token, rest) ← tag here rest
        scan.node token here rest
    | '\x27' => do
        let (content, rest) ← quoted '\x27' rest
        scan.node (.scalar content false) here rest
    | '\x22' => do
        let (content, rest) ← quoted '\x22' rest
        scan.node (.scalar content false) here rest
    | char =>
        if char = '-' && endsWord rest then scan.item here rest
        else if char = '?' && (scan.inFlow || endsWord rest) then scan.markKey here rest
        else if char = ':' && (scan.inFlow || endsWord rest) then scan.markValue here rest
        else if (char = '|' || char = '>') && !scan.inFlow then do
          let scan ← scan.giveUp
          let (content, rest) ← block (char = '>') scan.leastColumn rest
          some { scan.emit (.scalar content false) rest with allowsKey := true }
        else if beginsPlain scan.inFlow char rest then
          let (content, rest) := plain scan.inFlow scan.leastColumn (here :: rest)
          scan.node (.scalar content true) here rest
        else none

/-- Read tokens to the end, each from at least one character. -/
def run : Nat → Scan → Option (List Token)
  | 0, _ => none
  | bound + 1, scan =>
      let scan := scan.advance
      match scan.rest with
      | [] => scan.unwindAll.giveUp.map fun scan => scan.tokens.reverse
      | here :: rest => do
          let scan ← scan.refreshAll here
          let scan ← (scan.unwind here.column).read here rest
          run bound scan

end Scan

/-- The tokens of a document. -/
def tokens (text : Text) : Option (List Token) :=
  let spots := spots text
  Scan.run (spots.length + 1) { rest := spots }

end Yaml

end Marginalia
