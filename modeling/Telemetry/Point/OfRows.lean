import Telemetry.Payload.Parse
import Telemetry.Point
import Telemetry.Time.Period
/-
Points made from the rows of a payload.

A row's cells are taken one after another into a draft: a cell of a time channel sets the time and must be a text, any other
cell sets the field of its channel. A null cell does nothing. A row needs a time in the end. Implicit rows need one cell per
channel; explicit rows name their channels by index, each at most once, and are only allowed with two channels or more.
-/
namespace Telemetry.Point

open Json Payload Channel

/-- a point in the making -/
structure Draft where
  time : Option Time.Instant := none
  fields : SortedMap FieldValue := []

/-- takes the cell of a time channel -/
def Draft.takeTime (d : Draft) : Value → Except ServiceError Draft
  | .null => .ok d
  | .string s => (Time.instantOf s).map fun t => { d with time := some t }
  | other => .error (.invalidTimestamp other.text "time values must be strings")

/-- takes the cell of any other channel -/
def Draft.takeField (rowIndex : Nat) (c : Resolved) (d : Draft) : Value → Except ServiceError Draft
  | .null => .ok d
  | .bool b => .ok { d with fields := d.fields.insert c.fieldName (.boolean b) }
  | .number n => .ok { d with fields := d.fields.insert c.fieldName (.ofNumber n) }
  | .string s => .ok { d with fields := d.fields.insert c.fieldName (.text s) }
  | .array _ | .object _ => .error (.unsupportedValue rowIndex c.definition.code)

def Draft.take (rowIndex : Nat) (d : Draft) (c : Resolved) (v : Value) : Except ServiceError Draft :=
  if c.isTime then d.takeTime v else d.takeField rowIndex c v

def Draft.finish (rowIndex : Nat) (d : Draft) : Except ServiceError Point :=
  match d.time with
  | some time => .ok ⟨time, d.fields⟩
  | none => .error (.missingTime rowIndex)

def takeCells (rowIndex : Nat) : Draft → List (Resolved × Value) → Except ServiceError Draft
  | d, [] => .ok d
  | d, (c, v) :: cells => do
    let d ← d.take rowIndex c v
    takeCells rowIndex d cells

/-- the point of a row with one cell per channel -/
def ofImplicitRow (channels : List Resolved) (rowIndex : Nat) (values : List Value) : Except ServiceError Point := do
  if values.length ≠ channels.length then throw (.rowLengthMismatch rowIndex channels.length values.length)
  let d ← takeCells rowIndex {} (channels.zip values)
  d.finish rowIndex

/-- the channel with an index; of several the last -/
def channelAt (channels : List Resolved) (index : Nat) : Option Resolved :=
  channels.reverse.find? fun c => c.index == index

/-- takes entries whose indices have not been seen yet -/
def takeEntries (channels : List Resolved) (rowIndex : Nat) :
    List Nat → Draft → List Entry → Except ServiceError Draft
  | _, d, [] => .ok d
  | seen, d, e :: entries => do
    if seen.contains e.index then throw (.duplicateIndex rowIndex e.index)
    match channelAt channels e.index with
    | none => throw (.undeclaredIndex rowIndex e.index)
    | some c =>
      let d ← d.take rowIndex c e.value
      takeEntries channels rowIndex (e.index :: seen) d entries

def ofExplicitRow (channels : List Resolved) (rowIndex : Nat) (entries : List Entry) : Except ServiceError Point := do
  let d ← takeEntries channels rowIndex [] {} entries
  d.finish rowIndex

/-- the points of rows, in order, up to the first failure -/
def ofRows (channels : List Resolved) : Rows → Except ServiceError (List Point)
  | .implicit rows => eachFrom (ofImplicitRow channels) 0 rows
  | .explicit rows =>
    if channels.length < 2 then .error (.tooFewChannels channels.length)
    else eachFrom (ofExplicitRow channels) 0 rows

end Telemetry.Point
