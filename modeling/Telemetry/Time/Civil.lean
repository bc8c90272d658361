/-
The proleptic Gregorian calendar.

`dayNumber` counts days from 1970-01-01, `Date.ofDayNumber` is its inverse on calendar dates. Years are integers; the year
before 1 is 0.
-/
namespace Telemetry.Time

/-- a calendar date -/
structure Date where
  year : Int
  month : Nat
  day : Nat
  deriving DecidableEq, Repr

def isLeapYear (year : Int) : Bool :=
  year % 4 == 0 && (year % 100 != 0 || year % 400 == 0)

def monthLengths (leap : Bool) : List Nat :=
  [31, if leap then 29 else 28, 31, 30, 31, 30, 31, 31, 30, 31, 30, 31]

/-- the length of a month, 0 for a number that names none -/
def daysInMonth (year : Int) (month : Nat) : Nat :=
  match month with
  | 0 => 0
  | m + 1 => (monthLengths (isLeapYear year)).getD m 0

/-- days from the first day of the year 1 to the first day of a year -/
def daysBeforeYear (year : Int) : Int :=
  365 * (year - 1) + (year - 1) / 4 - (year - 1) / 100 + (year - 1) / 400

/-- days from the first day of the year 1 to 1970-01-01 -/
def epochDay : Int := 719162

/-- the month and the day holding a day of the year, counted from 0; the first argument numbers the first month -/
def monthAndDay : Nat → List Nat → Nat → Nat × Nat
  | month, [], dayOfYear => (month, dayOfYear + 1)
  | month, length :: rest, dayOfYear =>
    if dayOfYear < length then (month, dayOfYear + 1) else monthAndDay (month + 1) rest (dayOfYear - length)

namespace Date

/-- the date exists in the calendar -/
def isValid (d : Date) : Bool :=
  1 ≤ d.month && d.month ≤ 12 && 1 ≤ d.day && d.day ≤ daysInMonth d.year d.month

/-- days since 1970-01-01 -/
def dayNumber (d : Date) : Int :=
  let monthDays := ((monthLengths (isLeapYear d.year)).take (d.month - 1)).foldl (· + ·) 0
  daysBeforeYear d.year + (monthDays : Nat) + (d.day - 1 : Nat) - epochDay

/-- the year holding a day counted from the first day of the year 1 -/
def yearOfDay (n : Int) : Int :=
  let guess := n * 400 / 146097 + 1
  if n < daysBeforeYear guess then guess - 1
  else if daysBeforeYear (guess + 1) ≤ n then guess + 1
  else guess

/-- the date of a day counted from 1970-01-01 -/
def ofDayNumber (days : Int) : Date :=
  let n := days + epochDay
  let year := yearOfDay n
  let (month, day) := monthAndDay 1 (monthLengths (isLeapYear year)) (n - daysBeforeYear year).toNat
  ⟨year, month, day⟩

end Date

end Telemetry.Time
