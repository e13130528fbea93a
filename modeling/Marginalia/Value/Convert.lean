import Marginalia.Value.Basic

/-!
# Conversions of values

Where a number is expected, truth values count as zero and one, texts are read as numerals, and
decimals lose their fraction.  Every refusal names its cause; scalars of further kinds refuse with a
cause of their own.
-/

namespace Marginalia

namespace Value

/-- Why a value cannot be used as it was meant to be. -/
inductive Fault where
  /-- A text that is no integer numeral. -/
  | notInteger (content : Text)
  /-- An integer numeral with too many digits. -/
  | numeralTooLong (digits : Nat)
  /-- A kind of value that no integer is made from. -/
  | integerFromKind (kind : Kind)
  /-- An integer asked of what is not a number. -/
  | integerFromNan
  /-- An integer asked of an infinity. -/
  | integerFromInfinity
  /-- A text that is no decimal numeral. -/
  | notDecimal (content : Text)
  /-- A kind of value that no decimal is made from. -/
  | decimalFromKind (kind : Kind)
  /-- An integer beyond the largest double. -/
  | integerTooLarge
  /-- A kind of value without the member asked for. -/
  | noMember (kind : Kind) (name : Text)
  /-- A scalar of a further kind that refuses to be converted. -/
  | foreign (refusal : Refusal)
deriving DecidableEq

/-- The family of a fault. -/
def Fault.family : Fault → Family
  | .notInteger _ => .value
  | .numeralTooLong _ => .value
  | .integerFromKind _ => .kind
  | .integerFromNan => .value
  | .integerFromInfinity => .overflow
  | .notDecimal _ => .value
  | .decimalFromKind _ => .kind
  | .integerTooLarge => .overflow
  | .noMember _ _ => .member
  | .foreign refusal => refusal.family

/-- How much of a refused text a message shows. -/
def shownLimit : Nat := 200

/-- The message about an integer numeral with too many digits. -/
def tooLongMessage (digits : Nat) : Text :=
  "Exceeds the limit (4300 digits) for integer string conversion: value has ".toList ++
    Text.ofInteger digits ++
    " digits; use sys.set_int_max_str_digits() to increase the limit".toList

/-- The message of a fault. -/
def Fault.message : Fault → Text
  | .notInteger content =>
      "invalid literal for int() with base 10: ".toList ++
        (Text.quoted content).take shownLimit
  | .numeralTooLong digits => tooLongMessage digits
  | .integerFromKind kind =>
      "int() argument must be a string, a bytes-like object or a real number, not '".toList ++
        kind.name ++ ['\x27']
  | .integerFromNan => "cannot convert float NaN to integer".toList
  | .integerFromInfinity => "cannot convert float infinity to integer".toList
  | .notDecimal content =>
      "could not convert string to float: ".toList ++ Text.quoted content
  | .decimalFromKind kind =>
      "float() argument must be a string or a real number, not '".toList ++ kind.name ++ ['\x27']
  | .integerTooLarge => "int too large to convert to float".toList
  | .noMember kind name =>
      ['\x27'] ++ kind.name ++ "' object has no attribute '".toList ++ name ++ ['\x27']
  | .foreign refusal => refusal.message

/-- The double that an integer stands for. -/
def decimalOfInteger (number : Int) : Except Fault Float :=
  let nearest := Number.ofInteger number
  if Number.isInfinite nearest then .error .integerTooLarge else .ok nearest

section

variable {Foreign : Type} [Scalar Foreign]

/-- The integer that a value stands for. -/
def toInteger : Value Foreign → Except Fault Int
  | .bool truth => .ok (if truth then 1 else 0)
  | .integer number => .ok number
  | .decimal number =>
      if number.isNaN then .error .integerFromNan
      else if Number.isInfinite number then .error .integerFromInfinity
      else .ok (Number.truncate number)
  | .text content =>
      match Text.readInteger content with
      | .ok number => .ok number
      | .error .malformed => .error (.notInteger content)
      | .error (.tooLong digits) => .error (.numeralTooLong digits)
  | .foreign scalar => (Scalar.toInteger scalar).mapError .foreign
  | value => .error (.integerFromKind value.kind)

/-- The double that a value stands for. -/
def toDecimal : Value Foreign → Except Fault Float
  | .bool truth => .ok (if truth then 1 else 0)
  | .integer number => decimalOfInteger number
  | .decimal number => .ok number
  | .text content =>
      match Text.readDecimal content with
      | some number => .ok number
      | none => .error (.notDecimal content)
  | .foreign scalar => (Scalar.toDecimal scalar).mapError .foreign
  | value => .error (.decimalFromKind value.kind)

/-- The items of a list. -/
def items? : Value Foreign → Option (List (Value Foreign))
  | .list items => some items
  | _ => none

/-- The entries of a mapping, for looking up a key. -/
def entries : Value Foreign → Except Fault (Entries Foreign)
  | .mapping entries => .ok entries
  | value => .error (.noMember value.kind "get".toList)

/-- The entries of a part of a document that may be left out: what counts as nothing has none. -/
def sectionEntries (part : Option (Value Foreign)) : Except Fault (Entries Foreign) :=
  match part with
  | none => .ok []
  | some value => if value.isTruthy then value.entries else .ok []

end

end Value

end Marginalia
