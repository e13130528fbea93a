import Marginalia.Table
import Marginalia.Json.Reader

/-!
# What plain scalars stand for

A plain scalar that looks like a truth value, a number or nothing stands for that; any other is a
text.  Integers may be written in binary, octal, decimal or hexadecimal digits or in places of
sixty, decimals take a point, and underscores between digits say nothing.
-/

namespace Marginalia

namespace Yaml

/-- Why a document was not read. -/
inductive Fault where
  /-- The text is no document. -/
  | malformed
  /-- A number has no digits in its base. -/
  | noDigits (base : Nat)
  /-- A number has too many digits. -/
  | numeralTooLong (digits : Nat)
deriving DecidableEq, Repr

/-- The family of a fault. -/
def Fault.family : Fault → Family
  | .malformed => .document
  | _ => .value

/-- The message of a fault; what is no document is refused without a word. -/
def Fault.message : Fault → Text
  | .malformed => []
  | .noDigits base =>
      "invalid literal for int() with base ".toList ++ Text.ofInteger base ++ ": ''".toList
  | .numeralTooLong digits => Value.tooLongMessage digits

/-- The three ways of writing a word: small, with a capital, and in capitals. -/
def spellings (word : String) : List Text :=
  let small := word.toList
  [small, (small.take 1).map Char.toUpper ++ small.drop 1, small.map Char.toUpper]

/-- The words for the two truth values. -/
def truthWords : Table Text Bool :=
  (["yes", "true", "on"].flatMap spellings).map (·, true) ++
    (["no", "false", "off"].flatMap spellings).map (·, false)

/-- The ways of writing nothing. -/
def nullWords : List Text :=
  [] :: ['~'] :: spellings "null"

/-- Texts without the underscores that make them readable. -/
def withoutMarks (text : Text) : Text :=
  text.filter (· ≠ '_')

/-- The value of a digit in a base of at most sixteen. -/
def digitValue (char : Char) : Nat :=
  (Json.hexValue? char).getD 0

/-- A digit of the given base. -/
def isDigitOf (base : Nat) (char : Char) : Bool :=
  (Json.hexValue? char).any (· < base)

/-- A digit of the given base, or an underscore. -/
def isFigure (base : Nat) (char : Char) : Bool :=
  char = '_' || isDigitOf base char

/-- The number that digits of a base stand for. -/
def magnitude (base : Nat) (figures : Text) : Nat :=
  Text.ofDigits base ((withoutMarks figures).map digitValue)

/-- A number in decimal digits, of which there may not be too many. -/
def decimalMagnitude (figures : Text) : Except Fault Nat :=
  let digits := withoutMarks figures
  if Text.digitLimit < digits.length then .error (.numeralTooLong digits.length)
  else .ok (magnitude 10 digits)

/-- Whether a piece is a place of sixty: one digit, or two of which the first is at most five. -/
def isSixtieth : Text → Bool
  | [unit] => unit.isDigit
  | [ten, unit] => '0' ≤ ten && ten ≤ '5' && unit.isDigit
  | _ => false

/-- A number in decimal digits, or in places of sixty between colons. -/
def sexagesimal? (text : Text) : Option (Except Fault Nat) :=
  match Text.pieces ':' text with
  | first :: places =>
      if first.all (isFigure 10) && places.all isSixtieth then
        some do
          let first ← decimalMagnitude first
          return places.foldl (fun size place => size * 60 + magnitude 10 place) first
      else none
  | [] => none

/-- A number in figures of a base that is announced; there has to be a digit among them. -/
def announced? (base : Nat) (figures : Text) : Option (Except Fault Nat) :=
  if figures.isEmpty || !figures.all (isFigure base) then none
  else if (withoutMarks figures).isEmpty then some (.error (.noDigits base))
  else some (.ok (magnitude base figures))

/-- The size of an integer that is written without its sign. -/
def size? : Text → Option (Except Fault Nat)
  | '0' :: 'b' :: figures => announced? 2 figures
  | '0' :: 'x' :: figures => announced? 16 figures
  | '0' :: figures => if figures.all (isFigure 8) then some (.ok (magnitude 8 figures)) else none
  | first :: rest => if first.isDigit then sexagesimal? (first :: rest) else none
  | [] => none

/-- The integer that a scalar stands for. -/
def integer? (text : Text) : Option (Except Fault Int) :=
  let (negative, body) := Text.splitSign text
  (size? body).map fun size => size.map fun (size : Nat) => if negative then -size else size

/-- Whether a text is an exponent with a sign, or empty. -/
def isExponent : Text → Bool
  | [] => true
  | mark :: sign :: digits =>
      (mark = 'e' || mark = 'E') && (sign = '-' || sign = '+') && !digits.isEmpty &&
        digits.all Char.isDigit
  | _ => false

/-- Whether a text has the form of a decimal without sign: figures that begin with a digit before
the point, or after it when nothing stands before, and an exponent. -/
def isDecimal (isSigned : Bool) (text : Text) : Bool :=
  let whole := text.takeWhile (isFigure 10)
  match text.dropWhile (isFigure 10) with
  | '.' :: rest =>
      let places := rest.takeWhile (isFigure 10)
      isExponent (rest.dropWhile (isFigure 10)) &&
        match whole, places with
        | first :: _, _ => first.isDigit
        | [], first :: _ => first.isDigit && !isSigned
        | [], [] => false
  | _ => false

/-- A decimal in places of sixty: figures, places between colons, and a point in the last one. -/
def sexagesimalDecimal? (text : Text) : Option Float :=
  let (whole, fraction) := (Text.before '.' text, text.dropWhile (· ≠ '.'))
  match Text.pieces ':' whole, fraction with
  | first :: place :: places, '.' :: figures =>
      if (first.head?.any Char.isDigit) && first.all (isFigure 10) &&
          (place :: places).all isSixtieth && figures.all (isFigure 10) then
        let last := (place :: places).getLast?.getD [] ++ '.' :: withoutMarks figures
        let before := (withoutMarks first :: place :: places).dropLast
        let sizes := ((before ++ [last]).map Text.readDecimal).map (·.getD 0)
        some
          (sizes.reverse.foldl
            (fun (sum, base) size => (sum + size * Number.ofInteger base, base * 60))
            ((0 : Float), (1 : Int))).1
      else none
  | _, _ => none

/-- The decimal that a scalar stands for. -/
def decimal? (text : Text) : Option Float :=
  let (negative, body) := Text.splitSign text
  let isSigned := body.length < text.length
  let size :=
    if (spellings "inf").any fun word => body = '.' :: word then some (1 / 0)
    else if !isSigned && [".nan".toList, ".NaN".toList, ".NAN".toList].contains body then
      some (0 / 0)
    else if isDecimal isSigned body then Text.readDecimal (withoutMarks body)
    else sexagesimalDecimal? body
  if negative then size.map (- ·) else size

/-- What a plain scalar stands for. -/
def plainValue (text : Text) : Except Fault Value :=
  if nullWords.contains text then .ok .null
  else
    match truthWords.get? text, integer? text, decimal? text with
    | some truth, _, _ => .ok (.bool truth)
    | none, some number, _ => number.map Value.integer
    | none, none, some number => .ok (.decimal number)
    | none, none, none => .ok (.text text)

end Yaml

end Marginalia
