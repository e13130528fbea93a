import Marginalia.Value.Convert

/-!
# Reading JSON

A reader that accepts JSON texts together with the three words for numbers that are none.  A key
that comes twice keeps its first place and its last value.  A refusal carries the text from the
offending character on, so its position is the difference of two lengths.

Arrays and objects may be nested only so deep; the bracket of one that is too deep ends the reading
when it is met.  Within an array or object every item takes a character at least, so one more than
the length of the text bounds their number.
-/

namespace Marginalia

namespace Json

/-- What is wrong with a text that is no JSON text. -/
inductive Expectation where
  /-- A value should stand here. -/
  | value
  /-- The name of a property should stand here. -/
  | propertyName
  /-- A colon should stand here. -/
  | colon
  /-- A comma should stand here. -/
  | comma
  /-- Nothing should stand here. -/
  | nothing
  /-- The text that begins here does not end. -/
  | closingQuote
  /-- A control character stands inside a text. -/
  | noControl
  /-- No such escape exists. -/
  | escape
  /-- Four hexadecimal digits should follow. -/
  | hexDigits
  /-- A byte order mark opens the text. -/
  | noByteOrderMark
deriving DecidableEq, Repr

/-- The wording of an expectation. -/
def Expectation.wording : Expectation → Text
  | .value => "Expecting value".toList
  | .propertyName => "Expecting property name enclosed in double quotes".toList
  | .colon => "Expecting ':' delimiter".toList
  | .comma => "Expecting ',' delimiter".toList
  | .nothing => "Extra data".toList
  | .closingQuote => "Unterminated string starting at".toList
  | .noControl => "Invalid control character at".toList
  | .escape => "Invalid \\escape".toList
  | .hexDigits => "Invalid \\uXXXX escape".toList
  | .noByteOrderMark => "Unexpected UTF-8 BOM (decode using utf-8-sig)".toList

/-- Why a text was not read. -/
inductive Fault where
  /-- The text is no JSON text; what is left from the offending character on. -/
  | misread (expectation : Expectation) (rest : Text)
  /-- An integer with too many digits. -/
  | numeralTooLong (digits : Nat)
  /-- A bracket that is nested too deep. -/
  | tooDeep (opening : Char)
deriving DecidableEq, Repr

/-- The family of a fault. -/
def Fault.family : Fault → Family
  | .tooDeep _ => .collaborator
  | _ => .value

/-- A result together with the text after it. -/
abbrev Partial (α : Type) := Except Fault (α × Text)

/-- The characters that may stand between tokens. -/
def isSpace (char : Char) : Bool :=
  char = ' ' || char = '\t' || char = '\n' || char = '\r'

/-- Skip the characters between tokens. -/
def skipSpace (text : Text) : Text :=
  text.dropWhile isSpace

/-- The value of a hexadecimal digit. -/
def hexValue? (char : Char) : Option Nat :=
  if '0' ≤ char && char ≤ '9' then some (char.toNat - 48)
  else if 'a' ≤ char && char ≤ 'f' then some (char.toNat - 87)
  else if 'A' ≤ char && char ≤ 'F' then some (char.toNat - 55)
  else none

/-- The number that four hexadecimal digits stand for. -/
def hexQuad? (first second third fourth : Char) : Option Nat :=
  ([first, second, third, fourth].mapM hexValue?).map (Text.ofDigits 16)

/-- The character that a one-letter escape stands for. -/
def escaped? : Char → Option Char
  | '\x22' => some '\x22'
  | '\\' => some '\\'
  | '/' => some '/'
  | 'b' => some '\x08'
  | 'f' => some '\x0c'
  | 'n' => some '\n'
  | 'r' => some '\r'
  | 't' => some '\t'
  | _ => none

/-- A code point as a character; half a surrogate pair becomes the replacement character. -/
def charOf (code : Nat) : Char :=
  if 0xD800 ≤ code && code < 0xE000 then '\ufffd' else Char.ofNat code

/-- Put a character in front of a text that was read. -/
def withHead (char : Char) (result : Partial Text) : Partial Text :=
  result.map fun (text, rest) => (char :: text, rest)

/-- Read the rest of a quoted text, given the text from its opening quote on. -/
def readString (opening : Text) : Text → Partial Text
  | [] => .error (.misread .closingQuote opening)
  | '\x22' :: rest => .ok ([], rest)
  | ['\\'] => .error (.misread .closingQuote opening)
  | '\\' :: 'u' :: a :: b :: c :: d :: rest =>
      match hexQuad? a b c d, rest with
      | none, _ => .error (.misread .hexDigits ('u' :: a :: b :: c :: d :: rest))
      | some _, [] => .error (.misread .hexDigits ['u', a, b, c, d])
      | some high, '\\' :: 'u' :: e :: f :: g :: h :: next :: tail =>
          if 0xD800 ≤ high && high < 0xDC00 then
            match hexQuad? e f g h with
            | none => .error (.misread .hexDigits ('u' :: e :: f :: g :: h :: next :: tail))
            | some low =>
                if 0xDC00 ≤ low && low < 0xE000 then
                  withHead (Char.ofNat (0x10000 + (high - 0xD800) * 0x400 + (low - 0xDC00)))
                    (readString opening (next :: tail))
                else
                  withHead (charOf high)
                    (readString opening ('\\' :: 'u' :: e :: f :: g :: h :: next :: tail))
          else
            withHead (charOf high)
              (readString opening ('\\' :: 'u' :: e :: f :: g :: h :: next :: tail))
      | some code, rest => withHead (charOf code) (readString opening rest)
  | '\\' :: 'u' :: rest => .error (.misread .hexDigits ('u' :: rest))
  | '\\' :: letter :: rest =>
      match escaped? letter with
      | some char => withHead char (readString opening rest)
      | none => .error (.misread .escape ('\\' :: letter :: rest))
  | char :: rest =>
      if char.toNat < 0x20 then .error (.misread .noControl (char :: rest))
      else withHead char (readString opening rest)

/-- The leading ASCII digits with what follows them. -/
def digits (text : Text) : Text × Text :=
  (text.takeWhile Char.isDigit, text.dropWhile Char.isDigit)

/-- Split the integer part of a number off: a zero, or digits without a leading zero. -/
def integerPart? : Text → Option (Text × Text)
  | '0' :: rest => some (['0'], rest)
  | text => if (digits text).1.isEmpty then none else some (digits text)

/-- Split a fraction off; it takes a digit after the point. -/
def fraction : Text → Text × Text
  | '.' :: rest => if (digits rest).1.isEmpty then ([], '.' :: rest) else digits rest
  | text => ([], text)

/-- Split an exponent off; it takes a digit after the letter and its sign. -/
def exponent? : Text → Option (Int × Text)
  | letter :: rest =>
      if letter = 'e' || letter = 'E' then
        let (negative, body) := Text.splitSign rest
        let (figures, rest) := digits body
        if figures.isEmpty then none
        else
          let size : Int := Text.ofDigits 10 (figures.map fun char => char.toNat - 48)
          some (if negative then -size else size, rest)
      else none
  | [] => none

/-- Read a number that opens the text. -/
def readNumber? (text : Text) : Option (Partial Value) :=
  let (negative, unsigned) := match text with
    | '-' :: rest => (true, rest)
    | text => (false, text)
  (integerPart? unsigned).map fun (whole, rest) =>
    let (places, rest) := fraction rest
    let values := fun (figures : Text) => figures.map fun char => char.toNat - 48
    match exponent? rest with
    | some (power, rest) =>
        let size := Text.nearestDecimal (values (whole ++ places)) (power - places.length)
        .ok (.decimal (if negative then -size else size), rest)
    | none =>
        if places.isEmpty then
          if Text.digitLimit < whole.length then .error (.numeralTooLong whole.length)
          else
            let size : Int := Text.ofDigits 10 (values whole)
            .ok (.integer (if negative then -size else size), rest)
        else
          let size := Text.nearestDecimal (values (whole ++ places)) (-places.length)
          .ok (.decimal (if negative then -size else size), rest)

/-- The words that are values. -/
def words : List (Text × Value) :=
  [("null".toList, .null), ("true".toList, .bool true), ("false".toList, .bool false),
   ("NaN".toList, .decimal (0 / 0)), ("Infinity".toList, .decimal (1 / 0)),
   ("-Infinity".toList, .decimal (-(1 / 0)))]

/-- Read a word or a number that opens the text. -/
def readScalar (text : Text) : Partial Value :=
  match words.findSome? fun (word, value) => (word.isPrefixOf? text).map (value, ·) with
  | some result => .ok result
  | none => (readNumber? text).getD (.error (.misread .value text))

section

variable (reader : Text → Partial Value)

/-- Read the rest of an object from the name of a property on, given a reader of values, a bound on
the number of properties and the entries before. -/
def readMembers : Nat → List (Value × Value) → Text → Except Fault (Value × Text)
  | 0, _, text => .error (.misread .propertyName text)
  | bound + 1, entries, text =>
      match text with
      | '\x22' :: rest => do
          let (name, rest) ← readString text rest
          match skipSpace rest with
          | ':' :: rest => do
              let (value, rest) ← reader (skipSpace rest)
              let entries := Value.put (.text name) value entries
              match skipSpace rest with
              | '\x7d' :: rest => .ok (.mapping entries, rest)
              | ',' :: rest => readMembers bound entries (skipSpace rest)
              | rest => .error (.misread .comma rest)
          | rest => .error (.misread .colon rest)
      | text => .error (.misread .propertyName text)

/-- Read the rest of an array from an item on, given a reader of values, a bound on the number of
items and the items before, last first. -/
def readItems : Nat → List Value → Text → Except Fault (Value × Text)
  | 0, _, text => .error (.misread .value text)
  | bound + 1, items, text => do
      let (item, rest) ← reader text
      match skipSpace rest with
      | ']' :: rest => .ok (.list (item :: items).reverse, rest)
      | ',' :: rest => readItems bound (item :: items) (skipSpace rest)
      | rest => .error (.misread .comma rest)

end

/-- Read a value that opens the text, given how deep arrays and objects may be nested. -/
def readValue (nesting : Nat) (text : Text) : Partial Value :=
  match text with
  | '\x22' :: rest => (readString text rest).map fun (content, rest) => (.text content, rest)
  | '\x7b' :: rest =>
      match nesting with
      | 0 => .error (.tooDeep '\x7b')
      | nesting + 1 =>
          match skipSpace rest with
          | '\x7d' :: rest => .ok (.mapping [], rest)
          | rest => readMembers (readValue nesting) (rest.length + 1) [] rest
  | '[' :: rest =>
      match nesting with
      | 0 => .error (.tooDeep '[')
      | nesting + 1 =>
          match skipSpace rest with
          | ']' :: rest => .ok (.list [], rest)
          | rest => readItems (readValue nesting) (rest.length + 1) [] rest
  | text => readScalar text
termination_by structural nesting

/-- How deep arrays and objects may be nested: what a thousand nested calls leave when a few of them
are under way. -/
def standardNesting : Nat := 990

/-- Read a whole text. -/
def read (text : Text) (nesting : Nat := standardNesting) : Except Fault Value :=
  match text with
  | '\ufeff' :: _ => .error (.misread .noByteOrderMark text)
  | _ => do
      let (value, rest) ← readValue nesting (skipSpace text)
      match skipSpace rest with
      | [] => .ok value
      | rest => .error (.misread .nothing rest)

/-- The message about a bracket that is nested too deep. -/
def tooDeepMessage (opening : Char) : Text :=
  "maximum recursion depth exceeded while decoding a JSON ".toList ++
    (if opening = '[' then "array".toList else "object".toList) ++ " from a unicode string".toList

/-- The message of a fault in the given text.  Lines and columns count from one, characters from
zero, and a line feed opens a line. -/
def Fault.message (text : Text) : Fault → Text
  | .numeralTooLong digits => Value.tooLongMessage digits
  | .tooDeep opening => tooDeepMessage opening
  | .misread expectation rest =>
      let position := text.length - rest.length
      let passed := text.take position
      expectation.wording ++ ": line ".toList ++
        Text.ofInteger (passed.count '\n' + 1) ++ " column ".toList ++
        Text.ofInteger ((Text.afterLast '\n' passed).length + 1) ++ " (char ".toList ++
        Text.ofInteger position ++ [')']

end Json

end Marginalia
