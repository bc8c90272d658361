import Telemetry.Decimal.Notation
import Telemetry.Time.Civil
/-
Instants of universal time, and their written forms.

An instant is a count of seconds from 1970-01-01T00:00:00 and nanoseconds below two thousand million. A leap second is the
second before it with a thousand million nanoseconds or more, so the lexicographic order of the two counts is the order of
time. `unixNanos` is the storage precision: ticks of 100 nanoseconds, a half tick going up, a leap second counting as the
last nanosecond before it.
-/
namespace Telemetry.Time

/-- a point in universal time -/
structure Instant where
  seconds : Int
  nanos : Nat
  deriving DecidableEq, Repr

def nanosPerSecond : Nat := 1000000000

def secondsPerDay : Nat := 86400

def tickNanos : Nat := 100

namespace Instant

instance : LT Instant := ⟨fun a b => a.seconds < b.seconds ∨ (a.seconds = b.seconds ∧ a.nanos < b.nanos)⟩

instance : LE Instant := ⟨fun a b => a.seconds < b.seconds ∨ (a.seconds = b.seconds ∧ a.nanos ≤ b.nanos)⟩

instance (a b : Instant) : Decidable (a < b) :=
  inferInstanceAs (Decidable (a.seconds < b.seconds ∨ (a.seconds = b.seconds ∧ a.nanos < b.nanos)))

instance (a b : Instant) : Decidable (a ≤ b) :=
  inferInstanceAs (Decidable (a.seconds < b.seconds ∨ (a.seconds = b.seconds ∧ a.nanos ≤ b.nanos)))

/-- inside a leap second -/
def isLeapSecond (t : Instant) : Bool :=
  nanosPerSecond ≤ t.nanos

/-- nanoseconds since 1970, at tick precision -/
def unixNanos (t : Instant) : Int :=
  let total : Int := t.seconds * nanosPerSecond + min t.nanos (nanosPerSecond - 1)
  (total + tickNanos / 2) / tickNanos * tickNanos

def ofDate (d : Date) : Instant :=
  ⟨d.dayNumber * secondsPerDay, 0⟩

def date (t : Instant) : Date :=
  Date.ofDayNumber (t.seconds / secondsPerDay)

/-- seconds since the start of the day -/
def secondOfDay (t : Instant) : Nat :=
  (t.seconds % secondsPerDay).toNat

end Instant

/-! ## Written forms -/

/-- at least `width` digits, zeros in front -/
def padded (width n : Nat) : List Char :=
  let ds := Decimal.digitsOf n
  List.replicate (width - ds.length) '0' ++ ds

/-- four digits; outside 0 to 9999 a sign and at least four digits -/
def yearText (year : Int) : List Char :=
  if 0 ≤ year ∧ year ≤ 9999 then padded 4 year.toNat
  else (if year < 0 then '-' else '+') :: padded 4 year.natAbs

/-- nothing for zero, else a point and the fewest of 3, 6 and 9 digits that are exact -/
def fractionText (nanos : Nat) : List Char :=
  if nanos = 0 then []
  else if nanos % 1000000 = 0 then '.' :: padded 3 (nanos / 1000000)
  else if nanos % 1000 = 0 then '.' :: padded 6 (nanos / 1000)
  else '.' :: padded 9 nanos

/-- year, month and day with hyphens -/
def Date.text (d : Date) : List Char :=
  yearText d.year ++ '-' :: padded 2 d.month ++ '-' :: padded 2 d.day

namespace Instant

/-- hours, minutes, seconds and the fraction; a leap second is second 60 -/
def clockText (t : Instant) : List Char :=
  let s := t.secondOfDay
  let leap := if t.isLeapSecond then 1 else 0
  padded 2 (s / 3600) ++ ':' :: padded 2 (s / 60 % 60) ++ ':' :: padded 2 (s % 60 + leap)
    ++ fractionText (t.nanos - leap * nanosPerSecond)

/-- date and time with `T` between them and a zone after them -/
def textWithZone (zone : List Char) (t : Instant) : String :=
  String.ofList (t.date.text ++ 'T' :: t.clockText ++ zone)

def text : Instant → String :=
  textWithZone ['Z']

/-- the form in reports: zone `+00:00` -/
def offsetText : Instant → String :=
  textWithZone ['+', '0', '0', ':', '0', '0']

/-- the form in messages: a space between date and time, and the zone's name -/
def display (t : Instant) : String :=
  String.ofList (t.date.text ++ ' ' :: t.clockText ++ [' ', 'U', 'T', 'C'])

end Instant

end Telemetry.Time
