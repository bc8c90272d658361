import Telemetry.Decimal.Numeral
import Telemetry.Text.Character
import Telemetry.Time.Instant
/-
Reading instants: dates, date-times without an offset (taken as universal time), and date-times with one.

The form is recognised first, with decimal digits of any script (`split?`). Its fields are then read from left to right and
must be ASCII digits in range; the first fault met is the answer. Without an offset a field ends at the first character
that is no ASCII digit, and its value is judged before the separator is; whether the month has the day is asked last. With
an offset a field must be complete; the date is read and judged as a whole, then the clock with its fraction, then the
offset. Nine digits of a fraction count, the rest is ignored.
-/
namespace Telemetry.Time

open Text

/-- why a text is no instant -/
inductive Fault where
  /-- neither a date nor a date-time -/
  | notInForm
  | badCharacter
  | outOfRange
  | trailing
  deriving DecidableEq, Repr

def Fault.reason : Fault → String
  | .notInForm => "expected an ISO 8601 date or date-time"
  | .badCharacter => "input contains invalid characters"
  | .outOfRange => "input is out of range"
  | .trailing => "trailing input"

/-! ## The form -/

/-- the parts of a date-time -/
structure Parts where
  date : List Char
  clock : List Char
  /-- the characters after the point, none if there is no point -/
  fraction : List Char
  offset : Option (List Char)
  deriving DecidableEq, Repr

/-- characters match a picture in which `0` stands for any decimal digit -/
def matchesPicture : List Char → List Char → Bool
  | [], [] => true
  | '0' :: picture, c :: cs => isDecimalDigit c && matchesPicture picture cs
  | p :: picture, c :: cs => p == c && matchesPicture picture cs
  | _, _ => false

/-- year, month and day -/
def datePicture : List Char := ['0', '0', '0', '0', '-', '0', '0', '-', '0', '0']

/-- hour, minute and second -/
def clockPicture : List Char := ['0', '0', ':', '0', '0', ':', '0', '0']

/-- nothing, `Z`, or a sign with hours and minutes -/
def isOffset : List Char → Bool
  | ['Z'] | ['z'] => true
  | sign :: cs =>
    (sign == '+' || sign == '-') &&
      (matchesPicture ['0', '0', ':', '0', '0'] cs || matchesPicture ['0', '0', '0', '0'] cs)
  | [] => false

/-- the fraction and what follows it; a point needs a digit after it -/
def splitFraction : List Char → Option (List Char × List Char)
  | '.' :: cs =>
    match cs.takeWhile isDecimalDigit with
    | [] => none
    | ds => some (ds, cs.dropWhile isDecimalDigit)
  | cs => some ([], cs)

/-- the parts of a text in date-time form -/
def split? (cs : List Char) : Option Parts :=
  let date := cs.take 10
  let clock := (cs.drop 11).take 8
  let between := (cs.drop 10).take 1
  if matchesPicture datePicture date && (between == ['T'] || between == [' ']) && matchesPicture clockPicture clock then
    match splitFraction (cs.drop 19) with
    | none => none
    | some (fraction, []) => some ⟨date, clock, fraction, none⟩
    | some (fraction, rest) => if isOffset rest then some ⟨date, clock, fraction, some rest⟩ else none
  else none

/-! ## The fields -/

/-- a number of up to `width` ASCII digits within bounds, and what follows it -/
def readField (width least greatest : Nat) (cs : List Char) : Except Fault (Nat × List Char) :=
  let ds := (cs.take width).takeWhile isAsciiDigit
  if ds.isEmpty then .error .badCharacter
  else
    let n := Decimal.digitsValue ds
    if least ≤ n ∧ n ≤ greatest then .ok (n, cs.drop ds.length) else .error .outOfRange

/-- a number of exactly `width` ASCII digits, and what follows it -/
def readDigits (width : Nat) (cs : List Char) : Except Fault (Nat × List Char) :=
  let ds := (cs.take width).takeWhile isAsciiDigit
  if ds.length < width then .error .badCharacter else .ok (Decimal.digitsValue ds, cs.drop width)

def readMark (mark : Char) : List Char → Except Fault (List Char)
  | c :: cs => if c = mark then .ok cs else .error .badCharacter
  | [] => .error .badCharacter

/-- three numbers with marks between them, and what follows them -/
def readThree (mark : Char) (first second third : List Char → Except Fault (Nat × List Char)) (cs : List Char) :
    Except Fault ((Nat × Nat × Nat) × List Char) := do
  let (a, cs) ← first cs
  let cs ← readMark mark cs
  let (b, cs) ← second cs
  let cs ← readMark mark cs
  let (c, cs) ← third cs
  return ((a, b, c), cs)

/-- year, month and day, judged one by one, and what follows them -/
def readDate (cs : List Char) : Except Fault (Date × List Char) := do
  let ((year, month, day), cs) ← readThree '-' (readField 4 0 9999) (readField 2 1 12) (readField 2 1 31) cs
  return (⟨year, month, day⟩, cs)

/-- a complete date that exists -/
def readWholeDate (cs : List Char) : Except Fault Date := do
  let ((year, month, day), _) ← readThree '-' (readDigits 4) (readDigits 2) (readDigits 2) cs
  let d : Date := ⟨year, month, day⟩
  if d.isValid then return d else throw .outOfRange

/-- hour, minute and second of a day -/
structure Clock where
  hour : Nat
  minute : Nat
  second : Nat
  deriving DecidableEq, Repr

/-- the clock shows this in some minute of a day, one with a leap second perhaps -/
def Clock.isValid (c : Clock) : Bool :=
  c.hour ≤ 23 && c.minute ≤ 59 && c.second ≤ 60

/-- hour, minute and second, judged one by one, and what follows them -/
def readClock (cs : List Char) : Except Fault (Clock × List Char) := do
  let ((hour, minute, second), cs) ← readThree ':' (readField 2 0 23) (readField 2 0 59) (readField 2 0 60) cs
  return (⟨hour, minute, second⟩, cs)

/-- a complete clock, not judged -/
def readWholeClock (cs : List Char) : Except Fault Clock := do
  let ((hour, minute, second), _) ← readThree ':' (readDigits 2) (readDigits 2) (readDigits 2) cs
  return ⟨hour, minute, second⟩

/-- nanoseconds from the first nine characters of a fraction, and what of these is left unread -/
def readFractionNanos (fraction : List Char) : Except Fault (Nat × List Char) :=
  if fraction.isEmpty then .ok (0, [])
  else
    let kept := fraction.take 9
    let ds := kept.takeWhile isAsciiDigit
    if ds.isEmpty then .error .badCharacter
    else
      let n := Decimal.digitsValue ds
      .ok (n * Nat.pow 10 (9 - ds.length), kept.drop ds.length)

def twoDigits? (a b : Char) : Option Nat :=
  if isAsciiDigit a && isAsciiDigit b then some (10 * (a.toNat - 48) + (b.toNat - 48)) else none

/-- hours and minutes of an offset in seconds -/
def offsetSeconds (h₁ h₂ m₁ m₂ : Char) : Except Fault Nat :=
  match twoDigits? h₁ h₂, twoDigits? m₁ m₂ with
  | some h, some m => if 23 < h ∨ 59 < m then .error .outOfRange else .ok (h * 3600 + m * 60)
  | _, _ => .error .badCharacter

/-- an offset in seconds, east positive -/
def readOffset : List Char → Except Fault Int
  | [sign, h₁, h₂, ':', m₁, m₂] => signed sign (offsetSeconds h₁ h₂ m₁ m₂)
  | [sign, h₁, h₂, m₁, m₂] => signed sign (offsetSeconds h₁ h₂ m₁ m₂)
  | _ => .ok 0
where
  /-- west of universal time is negative -/
  signed (sign : Char) (seconds : Except Fault Nat) : Except Fault Int :=
    seconds.map fun n => if sign = '-' then -n else n

/-- the instant of a calendar date and a clock; second 60 is second 59 with a thousand million nanoseconds more -/
def instantAt (d : Date) (c : Clock) (nanos : Nat) : Except Fault Instant :=
  if d.isValid then
    let second := min c.second 59
    .ok ⟨d.dayNumber * secondsPerDay + (c.hour * 3600 + c.minute * 60 + second : Nat),
      if c.second = 60 then nanos + nanosPerSecond else nanos⟩
  else .error .outOfRange

/-- the start of a date, nothing following it -/
def readDateOnly (cs : List Char) : Except Fault Instant := do
  let (d, rest) ← readDate cs
  if rest.isEmpty then instantAt d ⟨0, 0, 0⟩ 0 else throw .trailing

/-- a date-time in universal time -/
def readUniversal (p : Parts) : Except Fault Instant := do
  let (d, rest) ← readDate p.date
  if !rest.isEmpty then throw .badCharacter
  let (c, rest) ← readClock p.clock
  if !rest.isEmpty then throw .trailing
  let (nanos, rest) ← readFractionNanos p.fraction
  if !rest.isEmpty then throw .trailing
  instantAt d c nanos

def readWithOffset (p : Parts) (offset : List Char) : Except Fault Instant := do
  let d ← readWholeDate p.date
  let c ← readWholeClock p.clock
  let (nanos, rest) ← readFractionNanos p.fraction
  if !c.isValid then throw .outOfRange
  if !rest.isEmpty then throw .badCharacter
  let east ← readOffset offset
  let t ← instantAt d c nanos
  return { t with seconds := t.seconds - east }

/-- the instant written in a text, blanks around it aside -/
def readInstant (s : String) : Except Fault Instant :=
  let cs := trimmed s.toList
  if matchesPicture datePicture cs then readDateOnly cs
  else
    match split? cs with
    | none => .error .notInForm
    | some p =>
      match p.offset with
      | none => readUniversal p
      | some offset => readWithOffset p offset

end Telemetry.Time
