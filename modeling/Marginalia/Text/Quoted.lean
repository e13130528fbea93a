import Marginalia.Text.Printable

/-!
# Quoted text

A text is shown between single quotes, or between double quotes when it holds a single quote and
no double one.  The backslash, the chosen quote, tabs and line ends are escaped by a letter, other
characters that cannot be shown by their code point in two, four or eight hexadecimal digits.
-/

namespace Marginalia

namespace Text

/-- One hexadecimal digit, small letters above nine. -/
def hexDigit (value : Nat) : Char :=
  if value < 10 then Char.ofNat (48 + value) else Char.ofNat (87 + value)

/-- The last hexadecimal digits of a number, as many as asked for. -/
def hexadecimal : Nat → Nat → Text
  | 0, _ => []
  | width + 1, value => hexadecimal width (value / 16) ++ [hexDigit (value % 16)]

/-- The quote that a text is shown in. -/
def quoteMark (text : Text) : Char :=
  if text.contains '\x27' && !text.contains '\x22' then '\x22' else '\x27'

/-- The shown form of one character inside the given quotes. -/
def quotedChar (mark char : Char) : Text :=
  if char = mark || char = '\\' then ['\\', char]
  else if char = '\t' then ['\\', 't']
  else if char = '\n' then ['\\', 'n']
  else if char = '\r' then ['\\', 'r']
  else if isPrintable char then [char]
  else if char.toNat < 0x100 then '\\' :: 'x' :: hexadecimal 2 char.toNat
  else if char.toNat < 0x10000 then '\\' :: 'u' :: hexadecimal 4 char.toNat
  else '\\' :: 'U' :: hexadecimal 8 char.toNat

/-- The shown form of a text. -/
def quoted (text : Text) : Text :=
  let mark := quoteMark text
  mark :: text.flatMap (quotedChar mark) ++ [mark]

end Text

end Marginalia
