import Marginalia.Number.Binary
import Marginalia.Text.Blank
import Marginalia.Text.DecimalDigit

/-!
# Numerals

Integers and decimals written by people: blanks around, an optional sign, decimal digits of any
script, and single underscores between digits.  A numeral of more than 4300 digits is refused, and
an integer of as many is not written either.
-/

namespace Marginalia

namespace Text

/-- The longest integer numeral that is read or written, in digits. -/
def digitLimit : Nat := 4300

/-- Why a text is no integer numeral. -/
inductive NumeralFault where
  /-- It does not have the form of a numeral. -/
  | malformed
  /-- It has more digits than are read. -/
  | tooLong (digits : Nat)
deriving DecidableEq, Repr

/-- Blanks that may stand around a numeral: all but the information separators. -/
def isNumeralBlank (char : Char) : Bool :=
  isBlankChar char && !(0x1C ≤ char.toNat && char.toNat ≤ 0x1F)

/-- The text without the blanks around a numeral. -/
def trimNumeral (text : Text) : Text :=
  ((text.dropWhile isNumeralBlank).reverse.dropWhile isNumeralBlank).reverse

/-- Split a sign off; `true` stands for minus. -/
def splitSign : Text → Bool × Text
  | '-' :: rest => (true, rest)
  | '+' :: rest => (false, rest)
  | text => (false, text)

/-- The leading digits with what follows them.  An underscore has to be followed by a digit. -/
def moreDigits : Text → Option (List Nat × Text)
  | [] => some ([], [])
  | ['_'] => none
  | '_' :: char :: rest =>
      match digitValue? char with
      | some digit => (moreDigits rest).map fun (digits, tail) => (digit :: digits, tail)
      | none => none
  | char :: rest =>
      match digitValue? char with
      | some digit => (moreDigits rest).map fun (digits, tail) => (digit :: digits, tail)
      | none => some ([], char :: rest)

/-- The leading digits, of which the first is no underscore. -/
def leadingDigits : Text → Option (List Nat × Text)
  | '_' :: _ => none
  | text => moreDigits text

/-- The number that digits in the given base stand for, the most significant first. -/
def ofDigits (base : Nat) (digits : List Nat) : Nat :=
  digits.foldl (fun value digit => value * base + digit) 0

/-- Read an integer numeral. -/
def readInteger (text : Text) : Except NumeralFault Int :=
  let (negative, body) := splitSign (trimNumeral text)
  match leadingDigits body with
  | none => .error .malformed
  | some (digits, rest) =>
      if digitLimit < digits.length then .error (.tooLong digits.length)
      else if digits.isEmpty || !rest.isEmpty then .error .malformed
      else
        let size : Int := ofDigits 10 digits
        .ok (if negative then -size else size)

/-- Write an integer in decimal digits. -/
def ofInteger (value : Int) : Text :=
  if value < 0 then '-' :: Nat.toDigits 10 value.natAbs else Nat.toDigits 10 value.natAbs

/-- Whether an integer is short enough to be written. -/
def isWritable (value : Int) : Bool :=
  (Nat.toDigits 10 value.natAbs).length ≤ digitLimit

/-- What is said in place of a message with an integer that is too long to be written. -/
def tooLongToWrite : Text :=
  "Exceeds the limit (4300 digits) for integer string conversion; ".toList ++
    "use sys.set_int_max_str_digits() to increase the limit".toList

/-- The double nearest to a decimal. -/
def nearestDecimal (digits : List Nat) (exponent : Int) : Float :=
  let digits := digits.dropWhile (· = 0)
  let lead : Int := digits.length + exponent
  if digits.isEmpty || lead < -400 then 0
  else if 400 < lead then 1 / 0
  else Float.ofScientific (ofDigits 10 digits) (exponent < 0) exponent.natAbs

/-- Read a signed exponent that ends the text; an absent one is zero. -/
def readExponent : Text → Option Int
  | [] => some 0
  | mark :: rest =>
      if mark = 'e' || mark = 'E' then
        let (negative, body) := splitSign rest
        match leadingDigits body with
        | some (digit :: digits, []) =>
            let size : Int := ofDigits 10 (digit :: digits)
            some (if negative then -size else size)
        | _ => none
      else none

/-- Read a decimal without sign. -/
def readUnsignedDecimal (text : Text) : Option Float :=
  match leadingDigits text with
  | none => none
  | some (whole, '.' :: rest) =>
      match leadingDigits rest with
      | none => none
      | some (fraction, rest) =>
          if whole.isEmpty && fraction.isEmpty then none
          else
            (readExponent rest).map fun exponent =>
              nearestDecimal (whole ++ fraction) (exponent - fraction.length)
  | some (whole, rest) =>
      if whole.isEmpty then none
      else (readExponent rest).map fun exponent => nearestDecimal whole exponent

/-- The small form of an ASCII letter. -/
def asciiLower (text : Text) : Text :=
  text.map Char.toLower

/-- Read a decimal numeral; infinity and the absence of a number may be written in words. -/
def readDecimal (text : Text) : Option Float :=
  let (negative, body) := splitSign (trimNumeral text)
  let size :=
    if asciiLower body = ['i', 'n', 'f'] || asciiLower body = "infinity".toList then some (1 / 0)
    else if asciiLower body = ['n', 'a', 'n'] then some (0 / 0)
    else readUnsignedDecimal body
  if negative then size.map (- ·) else size

end Text

end Marginalia
