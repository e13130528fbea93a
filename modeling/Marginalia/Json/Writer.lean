import Marginalia.Value.Basic

/-!
# Writing JSON

Values are written with two blanks of indentation for each level, one item to a line, and every
character outside the printable ASCII range as an escape.
-/

namespace Marginalia

namespace Json

/-- A unit of sixteen bits as an escape. -/
def unitEscape (unit : Nat) : Text :=
  '\\' :: 'u' :: Text.hexadecimal 4 unit

/-- The written form of a character inside quotes. -/
def writeChar (char : Char) : Text :=
  if char = '\x22' then ['\\', '\x22']
  else if char = '\\' then ['\\', '\\']
  else if char = '\n' then ['\\', 'n']
  else if char = '\r' then ['\\', 'r']
  else if char = '\t' then ['\\', 't']
  else if char = '\x0c' then ['\\', 'f']
  else if char = '\x08' then ['\\', 'b']
  else if 0x20 ≤ char.toNat && char.toNat < 0x7F then [char]
  else if char.toNat < 0x10000 then unitEscape char.toNat
  else
    unitEscape (0xD800 + (char.toNat - 0x10000) / 0x400) ++
      unitEscape (0xDC00 + (char.toNat - 0x10000) % 0x400)

/-- The written form of a text. -/
def writeText (text : Text) : Text :=
  '\x22' :: text.flatMap writeChar ++ ['\x22']

/-- The written form of a double. -/
def writeDecimal (number : Float) : Text :=
  if number.isNaN then "NaN".toList
  else if Number.isInfinite number then
    if Number.isNegative number then "-Infinity".toList else "Infinity".toList
  else Number.text number

/-- A line feed and the indentation of the given depth. -/
def newline (depth : Nat) : Text :=
  '\n' :: List.replicate (2 * depth) ' '

/-- Put parts between brackets, one to a line; nothing stands between the brackets of nothing. -/
def bracket (depth : Nat) (opening closing : Char) (parts : List Text) : Text :=
  if parts.isEmpty then [opening, closing]
  else
    opening :: newline (depth + 1) ++ Text.glue (',' :: newline (depth + 1)) parts ++
      newline depth ++ [closing]

mutual

/-- The written form of a value at the given depth. -/
def writeAt (depth : Nat) : Value → Text
  | .null => "null".toList
  | .bool truth => if truth then "true".toList else "false".toList
  | .integer number => Text.ofInteger number
  | .decimal number => writeDecimal number
  | .text content => writeText content
  | .list items => bracket depth '[' ']' (writeItems (depth + 1) items)
  | .mapping entries => bracket depth '\x7b' '\x7d' (writeEntries (depth + 1) entries)

/-- The written forms of the items of a list. -/
def writeItems (depth : Nat) : List Value → List Text
  | [] => []
  | item :: items => writeAt depth item :: writeItems depth items

/-- The written forms of the entries of a mapping. -/
def writeEntries (depth : Nat) : List (Value × Value) → List Text
  | [] => []
  | (key, value) :: entries =>
      (writeText key.asText ++ ':' :: ' ' :: writeAt depth value) :: writeEntries depth entries

end

/-- The written form of a value. -/
def write (value : Value) : Text :=
  writeAt 0 value

end Json

end Marginalia
