import Marginalia.Family
import Marginalia.Number.Shortest
import Marginalia.Text.Numeral
import Marginalia.Text.Quoted

/-!
# Values

Configuration files and review texts hold values of any kind where one kind is expected.  A value
here is what such a document holds; mappings keep the order in which their keys first came, and
setting a key again replaces its value where it stands.

A reader of documents may give scalars of further kinds, such as dates and strings of bytes.  They
are a parameter of the type, of which only what the library asks of any value is known; where
nothing else is said there are none of them.  A container that holds itself counts as such a scalar
from the depth on at which nothing looks into it any more.
-/

namespace Marginalia

/-- Scalars of further kinds, by what can be asked of them. -/
class Scalar (Foreign : Type) where
  /-- The name of the kind of a scalar. -/
  kindName : Foreign → Text
  /-- Whether a scalar counts as something. -/
  isTruthy : Foreign → Bool
  /-- What a scalar is as a key of a mapping, unless it cannot be one. -/
  keyName? : Foreign → Option Text
  /-- The form in which a scalar is shown. -/
  shown : Foreign → Text
  /-- Whether the integers in a scalar are short enough to be shown. -/
  isWritable : Foreign → Bool
  /-- The integer that a scalar stands for. -/
  toInteger : Foreign → Except Refusal Int
  /-- The double that a scalar stands for. -/
  toDecimal : Foreign → Except Refusal Float

/-- No further scalars at all. -/
instance : Scalar Empty where
  kindName := Empty.elim
  isTruthy := Empty.elim
  keyName? := Empty.elim
  shown := Empty.elim
  isWritable := Empty.elim
  toInteger := Empty.elim
  toDecimal := Empty.elim

/-- A value of a document. -/
inductive Value (Foreign : Type := Empty) where
  /-- The absence of a value. -/
  | null
  /-- A truth value. -/
  | bool (truth : Bool)
  /-- An integer of any size. -/
  | integer (number : Int)
  /-- A double. -/
  | decimal (number : Float)
  /-- A text. -/
  | text (content : Text)
  /-- A sequence of values. -/
  | list (items : List (Value Foreign))
  /-- Keys with their values, in the order of first arrival. -/
  | mapping (entries : List (Value Foreign × Value Foreign))
  /-- A scalar of a further kind. -/
  | foreign (scalar : Foreign)
deriving Inhabited, BEq

/-- Keys of a mapping with their values. -/
abbrev Value.Entries (Foreign : Type := Empty) : Type := List (Value Foreign × Value Foreign)

/-- The kind of a value. -/
inductive Kind where
  | null
  | bool
  | integer
  | decimal
  | text
  | list
  | mapping
  /-- A further kind, of this name. -/
  | foreign (name : Text)
deriving DecidableEq, Repr

/-- The name of a kind, as messages use it. -/
def Kind.name : Kind → Text
  | .null => "NoneType".toList
  | .bool => "bool".toList
  | .integer => "int".toList
  | .decimal => "float".toList
  | .text => "str".toList
  | .list => "list".toList
  | .mapping => "dict".toList
  | .foreign name => name

namespace Value

/-- A list of texts. -/
def ofTexts (texts : List Text) : Value :=
  .list (texts.map .text)

variable {Foreign : Type} [Scalar Foreign]

/-- The kind of a value. -/
def kind : Value Foreign → Kind
  | .null => .null
  | .bool _ => .bool
  | .integer _ => .integer
  | .decimal _ => .decimal
  | .text _ => .text
  | .list _ => .list
  | .mapping _ => .mapping
  | .foreign scalar => .foreign (Scalar.kindName scalar)

/-- Whether a value counts as something: zero, the empty and the absent do not. -/
def isTruthy : Value Foreign → Bool
  | .null => false
  | .bool truth => truth
  | .integer number => number ≠ 0
  | .decimal number => Number.rank? number ≠ some 0
  | .text content => !content.isEmpty
  | .list items => !items.isEmpty
  | .mapping entries => !entries.isEmpty
  | .foreign scalar => Scalar.isTruthy scalar

omit [Scalar Foreign] in
/-- The integer that a value equals as a number, for truth values and whole numbers. -/
def wholeNumber? : Value Foreign → Option Int
  | .bool truth => some (if truth then 1 else 0)
  | .integer number => some number
  | .decimal number =>
      if number.isNaN || Number.isInfinite number then none
      else
        let whole := Number.truncate number
        if Number.rank? (Number.ofInteger whole) = Number.rank? number then some whole else none
  | _ => none

/-- Whether two scalars are the same key of a mapping.  Numbers are compared by their size, across
their kinds; what is not a number is the same key as itself, of which a document has only one. -/
def sameKey : Value Foreign → Value Foreign → Bool
  | .null, .null => true
  | .text left, .text right => left = right
  | .decimal left, .decimal right => Number.rank? left = Number.rank? right
  | .foreign left, .foreign right =>
      match Scalar.keyName? left, Scalar.keyName? right with
      | some left, some right => left = right
      | _, _ => false
  | left, right =>
      match left.wholeNumber?, right.wholeNumber? with
      | some left, some right => left = right
      | _, _ => false

/-- Set a key of a mapping: in its place when it is there, at the end when it is new. -/
def put (key value : Value Foreign) : Entries Foreign → Entries Foreign
  | [] => [(key, value)]
  | (present, old) :: entries =>
      if present.sameKey key then (present, value) :: entries
      else (present, old) :: put key value entries

/-- The value of a key. -/
def lookup? (key : Value Foreign) : Entries Foreign → Option (Value Foreign)
  | [] => none
  | (present, value) :: entries =>
      if present.sameKey key then some value else lookup? key entries

/-- The value of a key that is a text. -/
def field? (name : Text) (entries : Entries Foreign) : Option (Value Foreign) :=
  lookup? (.text name) entries

mutual

/-- The form in which a value is shown inside another one. -/
def shown : Value Foreign → Text
  | .null => "None".toList
  | .bool truth => if truth then "True".toList else "False".toList
  | .integer number => Text.ofInteger number
  | .decimal number => Number.text number
  | .text content => Text.quoted content
  | .list items => '[' :: Text.glue [',', ' '] (shownItems items) ++ [']']
  | .mapping entries => '\x7b' :: Text.glue [',', ' '] (shownEntries entries) ++ ['\x7d']
  | .foreign scalar => Scalar.shown scalar

/-- The shown forms of the items of a list. -/
def shownItems : List (Value Foreign) → List Text
  | [] => []
  | item :: items => shown item :: shownItems items

/-- The shown forms of the entries of a mapping. -/
def shownEntries : Entries Foreign → List Text
  | [] => []
  | (key, value) :: entries => (shown key ++ ':' :: ' ' :: shown value) :: shownEntries entries

end

/-- The text of a value: a text stands for itself, anything else is shown. -/
def asText : Value Foreign → Text
  | .text content => content
  | value => value.shown

mutual

/-- Whether the integers in a value are short enough to be shown. -/
def isWritable : Value Foreign → Bool
  | .integer number => Text.isWritable number
  | .list items => areWritable items
  | .mapping entries => haveWritable entries
  | .foreign scalar => Scalar.isWritable scalar
  | _ => true

/-- Whether all items of a list are short enough to be shown. -/
def areWritable : List (Value Foreign) → Bool
  | [] => true
  | item :: items => isWritable item && areWritable items

/-- Whether all entries of a mapping are short enough to be shown. -/
def haveWritable : Entries Foreign → Bool
  | [] => true
  | (key, value) :: entries => isWritable key && isWritable value && haveWritable entries

end

end Value

end Marginalia
