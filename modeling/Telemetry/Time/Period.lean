import Telemetry.Error
import Telemetry.Json.Typed
import Telemetry.Time.Reader
/-
Time periods: two instants, the first not after the second.

`Period.between` and `Period.read` refuse a start after the end. `Period.trailing` is the window of some hours before an instant;
it is refused when the hours are negative or more than a duration can hold, and when the window would start before the
calendar does. Counting back out of a leap second starts from the instant after it less one second, and no hours at all
leave the instant as it is.
-/
namespace Telemetry.Time

open Json

/-- a period of time, both ends included -/
structure Period where
  start : Instant
  stop : Instant
  deriving DecidableEq, Repr

/-- the instant written in a text, the fault naming the text as given -/
def instantOf (s : String) : Except ServiceError Instant :=
  match readInstant s with
  | .ok t => .ok t
  | .error fault => .error (.invalidTimestamp s fault.reason)

/-- hours that a duration can hold -/
def greatestWindowHours : Int := 2562047788015

def secondsPerHour : Nat := 3600

/-- the first instant of the calendar -/
def earliest : Instant :=
  Instant.ofDate ⟨-262143, 1, 1⟩

/-- an instant some hours earlier -/
def Instant.hoursBefore (t : Instant) (hours : Nat) : Instant :=
  if hours = 0 then t
  else if t.isLeapSecond then ⟨t.seconds + 1 - hours * secondsPerHour, t.nanos - nanosPerSecond⟩
  else ⟨t.seconds - hours * secondsPerHour, t.nanos⟩

namespace Period

def between (start stop : Instant) : Except ServiceError Period :=
  if stop < start then .error (.invalidPeriod start stop) else .ok ⟨start, stop⟩

/-- the period between two instants as written, the start read first -/
def read (start stop : String) : Except ServiceError Period := do
  let a ← instantOf start
  let b ← instantOf stop
  between a b

/-- the window of `hours` hours that ends at an instant -/
def trailing (stop : Instant) (hours : Int) : Except ServiceError Period :=
  if hours < 0 ∨ greatestWindowHours < hours then .error (.config s!"invalid window of {hours} hours")
  else
    let start := stop.hoursBefore hours.toNat
    if start < earliest then .error (.config s!"window of {hours} hours underflows") else between start stop

def startNanos (p : Period) : Int := p.start.unixNanos

def stopNanos (p : Period) : Int := p.stop.unixNanos

end Period

/-! ## In JSON

The ends of a period are instants as texts, read by a reader that is given. A period is read as it stands: its ends are not
held to the order that `Period.between` asks for.
-/

def Period.ofJson? (instant? : String → Option Instant) (w : Written) : Option Period := do
  let fields ← w.fields? ["start", "end"]
  let start ← fields.required "start" fun w => w.string?.bind instant?
  let stop ← fields.required "end" fun w => w.string?.bind instant?
  return ⟨start, stop⟩

def Period.toJson (p : Period) : Value :=
  .record [("start", .string p.start.text), ("end", .string p.stop.text)]

end Telemetry.Time
