import Marginalia.Calendar.Date
import Marginalia.Family
import Marginalia.Text.Numeral
import Marginalia.Text.Quoted

/-!
# Moments

A moment is a date with a time of day, and possibly with an offset from universal time.  Moments are
read from their international notation, in which the date may be given by month or by week, with or
without separators, and any one character stands between date and time.
-/

namespace Marginalia

/-- A time of day. -/
structure Clock where
  /-- The hour. -/
  hour : Nat := 0
  /-- The minute. -/
  minute : Nat := 0
  /-- The second. -/
  second : Nat := 0
  /-- The millionths of a second. -/
  micro : Nat := 0
deriving DecidableEq, Repr

/-- A date with a time of day. -/
structure Moment where
  /-- The date. -/
  date : Date
  /-- The time of day. -/
  clock : Clock := {}
  /-- The offset from universal time in millionths of a second, where one is given. -/
  offset : Option Int := none
deriving DecidableEq, Repr

namespace Moment

/-- Why a text is no moment. -/
inductive Fault where
  /-- It does not have the form of one. -/
  | form (text : Text)
  /-- There is no such day. -/
  | date (cause : Date.Fault)
  /-- There is no such hour. -/
  | hour
  /-- There is no such minute. -/
  | minute
  /-- There is no such second. -/
  | second
  /-- The offset reaches a whole day. -/
  | offset (micros : Int)
deriving DecidableEq, Repr

/-- A length of time in days, seconds and millionths, of which the last two are not negative; a part
that is zero is left out. -/
def durationText (micros : Int) : Text :=
  let parts : List (String × Int) :=
    [("days=", micros / 86400000000), ("seconds=", micros % 86400000000 / 1000000),
      ("microseconds=", micros % 1000000)]
  let shown := parts.filterMap fun (name, count) =>
    if count = 0 then none else some (name.toList ++ Text.ofInteger count)
  "datetime.timedelta(".toList ++
    (if shown.isEmpty then ['0'] else Text.glue [',', ' '] shown) ++ [')']

/-- The message of a fault. -/
def Fault.message : Fault → Text
  | .form text => "Invalid isoformat string: ".toList ++ Text.quoted text
  | .date (.year year) => "year ".toList ++ Text.ofInteger year ++ " is out of range".toList
  | .date .month => "month must be in 1..12".toList
  | .date .day => "day is out of range for month".toList
  | .hour => "hour must be in 0..23".toList
  | .minute => "minute must be in 0..59".toList
  | .second => "second must be in 0..59".toList
  | .offset micros =>
      "offset must be a timedelta strictly between -timedelta(hours=24) and ".toList ++
        "timedelta(hours=24), not ".toList ++ durationText micros ++ ['.']

/-- The family of a fault. -/
def Fault.family (_ : Fault) : Family := .value

/-- Whether a character is a digit of the notation. -/
def isDigit (char : Char) : Bool :=
  '0' ≤ char && char ≤ '9'

/-- Read so many digits. -/
def readDigits : Nat → Text → Option (Nat × Text)
  | 0, text => some (0, text)
  | count + 1, char :: text =>
      if isDigit char then
        (readDigits count text).map fun (value, rest) =>
          ((char.toNat - 48) * Nat.pow 10 count + value, rest)
      else none
  | _ + 1, [] => none

/-- The number of characters of the date.  Where a week is given without separator, a digit for the
day belongs to the date when an odd number of digits follows the week. -/
def dateLength? (text : Text) : Option Nat :=
  let char (index : Nat) : Char := text.getD index '\x00'
  let length := text.length
  if length = 7 then some 7
  else if char 4 = '-' then
    if char 5 = 'W' then
      if length < 8 || length = 9 && char 8 = '-' then none
      else if char 8 = '-' then
        if isDigit (char 10) then some 8 else some 10
      else some 8
    else some 10
  else if char 4 = 'W' then
    let digits := 7 + ((text.drop 7).takeWhile isDigit).length
    if digits < 9 then some digits else if digits % 2 = 0 then some 7 else some 8
  else some 8

/-- Skip a hyphen, if hyphens are used. -/
def hyphen? (isUsed : Bool) (text : Text) : Option Text :=
  match isUsed, text with
  | false, _ => some text
  | true, '-' :: rest => some rest
  | true, _ => none

/-- Read a date that is given by week. -/
def readWeekDate (year : Nat) (isHyphenated : Bool) (text : Text) :
    Option (Except Date.Fault Date) := do
  let (week, rest) ← readDigits 2 text
  if rest.isEmpty then Date.ofWeek? year week 1
  else
    let rest ← hyphen? isHyphenated rest
    let (day, _) ← readDigits 1 rest
    Date.ofWeek? year week day

/-- Read a date. -/
def readDate (text : Text) : Option (Except Date.Fault Date) := do
  let (year, rest) ← readDigits 4 text
  let isHyphenated := rest.head? = some '-'
  let rest ← hyphen? isHyphenated rest
  match rest with
  | 'W' :: rest => readWeekDate year isHyphenated rest
  | _ =>
      let (month, rest) ← readDigits 2 rest
      let rest ← hyphen? isHyphenated rest
      let (day, _) ← readDigits 2 rest
      some (Date.make year month day)

/-- Read a fraction of a second as millionths; further digits are dropped.  The second component
tells whether anything is left, where `next` is the character after the text. -/
def readFraction (next : Char) (text : Text) : Option (Nat × Bool) := do
  let count := min 6 text.length
  let (value, rest) ← readDigits count text
  let next := (rest.dropWhile isDigit).headD next
  pure (value * Nat.pow 10 (6 - count), next ≠ '\x00')

/-- The time of day with the given hour, minute and second, of which the last may be missing. -/
def clockOf (values : List Nat) (micro : Nat) : Clock where
  hour := values.getD 0 0
  minute := values.getD 1 0
  second := values.getD 2 0
  micro := micro

/-- Read a time of day, given the values that were read before and the number of those that may
follow.  Colons are used when one follows the hour.  A single ASCII character may be left over; the
second component tells whether one is. -/
def readClock (next : Char) : Nat → List Nat → Bool → Text → Option (Clock × Bool)
  | 0, values, _, text =>
      (readFraction next text).map fun (micro, isLeft) => (clockOf values micro, isLeft)
  | left + 1, values, hasColons, text => do
      let (value, rest) ← readDigits 2 text
      let values := values ++ [value]
      match rest with
      | [] => some (clockOf values 0, next ≠ '\x00')
      | [mark] => if mark.toNat < 128 then some (clockOf values 0, mark ≠ '\x00') else none
      | mark :: tail =>
          let hasColons := if left = 2 then mark = ':' else hasColons
          if hasColons && mark = ':' then readClock next left values hasColons tail
          else if mark = '.' || mark = ',' then
            (readFraction next tail).map fun (micro, isLeft) => (clockOf values micro, isLeft)
          else if hasColons then none
          else readClock next left values hasColons rest

/-- Whether a character begins an offset. -/
def isOffsetMark (char : Char) : Bool :=
  char = '+' || char = '-' || char = 'Z'

/-- The offset that a time of day ahead of, or behind, universal time stands for.  Less than a
second counts only along with at least one. -/
def offsetOf (isBehind : Bool) (clock : Clock) : Int :=
  let seconds := (clock.hour * 60 + clock.minute) * 60 + clock.second
  let micros : Int := if seconds = 0 then 0 else (seconds * 1000000 + clock.micro : Nat)
  if isBehind then -micros else micros

/-- Read an offset. -/
def readOffset : Text → Option (Option Int)
  | [] => some none
  | 'Z' :: rest => if rest.headD '\x00' = '\x00' then some (some 0) else none
  | sign :: rest => do
      let (clock, isLeft) ← readClock '\x00' 3 [] true rest
      if isLeft then none else some (some (offsetOf (sign = '-') clock))

/-- Read a time of day with its offset. -/
def readTime (text : Text) : Option (Clock × Option Int) := do
  let body := text.takeWhile (!isOffsetMark ·)
  let rest := text.dropWhile (!isOffsetMark ·)
  let (clock, isLeft) ← readClock (rest.headD '\x00') 3 [] true body
  if rest.isEmpty && isLeft then none
  else
    let offset ← readOffset rest
    pure (clock, offset)

/-- The parts of a moment in writing. -/
def readParts (text : Text) : Option (Except Date.Fault Date × Clock × Option Int) := do
  let length ← dateLength? text
  let date ← readDate (text.take length)
  match text.drop length with
  | [] => some (date, {}, none)
  | _ :: rest =>
      let (clock, offset) ← readTime rest
      some (date, clock, offset)

/-- Read a moment. -/
def read (text : Text) : Except Fault Moment :=
  match readParts text with
  | none => .error (.form text)
  | some (date, clock, offset) =>
      match offset.filter (86400000000 ≤ ·.natAbs), date with
      | some micros, _ => .error (.offset micros)
      | none, .error cause => .error (.date cause)
      | none, .ok date =>
          if 23 < clock.hour then .error .hour
          else if 59 < clock.minute then .error .minute
          else if 59 < clock.second then .error .second
          else .ok { date, clock, offset }

/-- A number in at least so many digits. -/
def padded (width value : Nat) : Text :=
  Text.padLeft width '0' (Text.ofInteger value)

/-- An offset in writing. -/
def offsetText (micros : Int) : Text :=
  let size := micros.natAbs
  let seconds := size / 1000000
  (if micros < 0 then '-' else '+') :: padded 2 (seconds / 3600) ++
    ':' :: padded 2 (seconds / 60 % 60) ++
    (if size % 60000000 = 0 then [] else ':' :: padded 2 (seconds % 60)) ++
    (if size % 1000000 = 0 then [] else '.' :: padded 6 (size % 1000000))

/-- A moment in writing. -/
def text (moment : Moment) : Text :=
  padded 4 moment.date.year ++ '-' :: padded 2 moment.date.month ++
    '-' :: padded 2 moment.date.day ++ 'T' :: padded 2 moment.clock.hour ++
    ':' :: padded 2 moment.clock.minute ++ ':' :: padded 2 moment.clock.second ++
    (if moment.clock.micro = 0 then [] else '.' :: padded 6 moment.clock.micro) ++
    (moment.offset.map offsetText).getD []

end Moment

end Marginalia
