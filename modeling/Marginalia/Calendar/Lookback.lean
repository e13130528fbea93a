import Marginalia.Calendar.Moment

/-!
# Looking back

The moment a number of days before another one.  The calendar begins with the year 1, and a number
of days may itself be too large to be counted with.
-/

namespace Marginalia

namespace Moment

/-- Why there is no moment so many days back. -/
inductive Overflow where
  /-- The days exceed what a length of time may hold. -/
  | tooManyDays (days : Int)
  /-- The days exceed a machine integer. -/
  | daysNoInteger
  /-- The calendar does not reach back so far. -/
  | beforeCalendar
deriving DecidableEq, Repr

/-- The largest number of days of a length of time. -/
def maxDays : Int := 999999999

/-- The message of an overflow. -/
def Overflow.message : Overflow → Text
  | .tooManyDays days =>
      "days=".toList ++ Text.ofInteger days ++ "; must have magnitude <= 999999999".toList
  | .daysNoInteger => "Python int too large to convert to C int".toList
  | .beforeCalendar => "date value out of range".toList

/-- The family of an overflow. -/
def Overflow.family (_ : Overflow) : Family := .overflow

/-- The moment that lies some days back, at the same time of day. -/
def back (moment : Moment) (days : Int) : Except Overflow Moment :=
  if 2147483648 ≤ days then .error .daysNoInteger
  else if maxDays < days then .error (.tooManyDays days)
  else
    match moment.date.back? days.toNat with
    | none => .error .beforeCalendar
    | some date => .ok { moment with date }

end Moment

end Marginalia
