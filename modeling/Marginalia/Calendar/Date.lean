import Marginalia.Number.Total

/-!
# Dates

A day of the Gregorian calendar, extended backwards, of the years 1 to 9999.  Days are counted from
the first of January of the year 1, which has number one.
-/

namespace Marginalia

/-- A day of the calendar. -/
structure Date where
  /-- The year. -/
  year : Nat
  /-- The month, from one. -/
  month : Nat
  /-- The day of the month, from one. -/
  day : Nat
deriving DecidableEq, Repr

namespace Date

/-- The last year of the calendar. -/
def lastYear : Nat := 9999

/-- Whether a year has a twenty-ninth of February. -/
def isLeap (year : Nat) : Bool :=
  year % 4 = 0 && (year % 100 ≠ 0 || year % 400 = 0)

/-- The number of days of a month. -/
def daysInMonth (year month : Nat) : Nat :=
  if month = 2 then if isLeap year then 29 else 28
  else if month = 4 || month = 6 || month = 9 || month = 11 then 30
  else 31

/-- The number of days before a year. -/
def daysBeforeYear (year : Nat) : Nat :=
  let past := year - 1
  past * 365 + past / 4 - past / 100 + past / 400

/-- The number of days of a year before a month. -/
def daysBeforeMonth (year month : Nat) : Nat :=
  total ((List.range (month - 1)).map fun index => daysInMonth year (index + 1))

/-- The number of a day. -/
def number (date : Date) : Nat :=
  daysBeforeYear date.year + daysBeforeMonth date.year date.month + date.day

/-- Find the month of a day of a year, given the months that are left to try. -/
def inYear (year : Nat) : Nat → Nat → Nat → Date
  | 0, month, day => ⟨year, month, day⟩
  | left + 1, month, day =>
      let size := daysInMonth year month
      if day ≤ size then ⟨year, month, day⟩ else inYear year left (month + 1) (day - size)

/-- The year that a day number falls in. -/
def yearOf (number : Nat) : Nat :=
  let guess := (number - 1) / 366 + 1
  ((List.range 30).map (guess + ·)).foldl
    (fun found year => if daysBeforeYear year < number then year else found) guess

/-- The day with a given number. -/
def ofNumber (number : Nat) : Date :=
  let year := yearOf number
  inYear year 11 1 (number - daysBeforeYear year)

/-- The day of the week, where Monday is zero. -/
def weekday (number : Nat) : Nat :=
  (number + 6) % 7

/-- Why there is no such day. -/
inductive Fault where
  /-- The year is outside the calendar. -/
  | year (year : Nat)
  /-- There is no such month. -/
  | month
  /-- The month has no such day. -/
  | day
deriving DecidableEq, Repr

/-- A date, when there is such a day. -/
def make (year month day : Nat) : Except Fault Date :=
  if year = 0 || lastYear < year then .error (.year year)
  else if month = 0 || 12 < month then .error .month
  else if day = 0 || daysInMonth year month < day then .error .day
  else .ok ⟨year, month, day⟩

/-- The number of the Monday of the first week of a year: the week that holds its first
Thursday. -/
def firstMonday (year : Nat) : Nat :=
  let first := daysBeforeYear year + 1
  if weekday first ≤ 3 then first - weekday first else first + 7 - weekday first

/-- Whether a year has fifty-three weeks. -/
def hasLongYear (year : Nat) : Bool :=
  let first := weekday (daysBeforeYear year + 1)
  first = 3 || first = 2 && isLeap year

/-- The day of a week of a year, when the year has such a week and the week such a day.  The year
zero has weeks, but none of their days is in the calendar. -/
def ofWeek? (year week day : Nat) : Option (Except Fault Date) :=
  if day = 0 || 7 < day || week = 0 || 53 < week then none
  else if year = 0 then if week = 53 then none else some (.error .month)
  else if week = 53 && !hasLongYear year then none
  else
    let date := ofNumber (firstMonday year + (week - 1) * 7 + day - 1)
    some (make date.year date.month date.day)

/-- The day that lies some days back, when it is in the calendar. -/
def back? (date : Date) (days : Nat) : Option Date :=
  if days < date.number then some (ofNumber (date.number - days)) else none

end Date

end Marginalia
