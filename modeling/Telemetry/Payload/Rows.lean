import Telemetry.Error
import Telemetry.Json.Writer
/-
Rows of a payload, in one of two formats.

Implicit rows line up with the declared channels; explicit rows hold pairs of a channel index and a value. The format is
decided by the first row that is not empty: it is explicit if that row starts with an array. `Rows.parse` then holds every
row to the format.
-/
namespace Telemetry.Payload

open Json

/-- how rows refer to channels -/
inductive Format where
  | implicit | explicit
  deriving DecidableEq, Repr

def Format.name : Format → String
  | .implicit => "implicit"
  | .explicit => "explicit"

/-- a value for the channel with an index -/
structure Entry where
  index : Nat
  value : Value

/-- rows of one format -/
inductive Rows where
  | implicit (rows : List (List Value))
  | explicit (rows : List (List Entry))

namespace Rows

def empty : Format → Rows
  | .implicit => .implicit []
  | .explicit => .explicit []

def format : Rows → Format
  | .implicit _ => .implicit
  | .explicit _ => .explicit

def length : Rows → Nat
  | .implicit rows => rows.length
  | .explicit rows => rows.length

end Rows

/-- applies a step to each element with its position, counted from a number, up to the first failure -/
def eachFrom {α β ε : Type} (step : Nat → α → Except ε β) : Nat → List α → Except ε (List β)
  | _, [] => .ok []
  | i, a :: as => do
    let b ← step i a
    let bs ← eachFrom step (i + 1) as
    return b :: bs

def rowValues (rowIndex : Nat) (row : Value) : Except ParserError (List Value) :=
  match row.items? with
  | some values => .ok values
  | none => .error (.malformedRow rowIndex "expected an array of values")

/-- the format of rows, counted from a number -/
def detectFormatFrom : Nat → List Value → Except ParserError Format
  | _, [] => .ok .implicit
  | rowIndex, row :: rows => do
    match ← rowValues rowIndex row with
    | [] => detectFormatFrom (rowIndex + 1) rows
    | .array _ :: _ => return .explicit
    | _ :: _ => return .implicit

/-- the format of rows: that of the first row that is not empty -/
def detectFormat (rows : List Value) : Except ParserError Format :=
  detectFormatFrom 0 rows

def parseImplicitRow (rowIndex : Nat) (row : Value) : Except ParserError (List Value) := do
  let values ← rowValues rowIndex row
  match values.findIdx? Value.isNested with
  | some position =>
    throw (.malformedRow rowIndex s!"implicit rows hold scalar values, found a nested value at position {position}")
  | none => return values

def parseEntry (rowIndex : Nat) (pair : Value) : Except ParserError Entry :=
  match pair with
  | .array [index, value] =>
    match index with
    | .number (.int i) =>
      if 0 ≤ i then .ok ⟨i.toNat, value⟩
      else .error (.malformedRow rowIndex s!"pair index {index.text} is not a non-negative integer")
    | _ => .error (.malformedRow rowIndex s!"pair index {index.text} is not a non-negative integer")
  | .array items =>
    .error (.malformedRow rowIndex s!"explicit entries are [index, value] pairs, found {items.length} items")
  | _ => .error (.malformedRow rowIndex "explicit rows hold [index, value] pairs, found a scalar value")

def parseExplicitRow (rowIndex : Nat) (row : Value) : Except ParserError (List Entry) := do
  let values ← rowValues rowIndex row
  eachFrom (fun _ pair => parseEntry rowIndex pair) 0 values

/-- rows held to a format -/
def Rows.parse (rows : List Value) : Format → Except ParserError Rows
  | .implicit => (eachFrom parseImplicitRow 0 rows).map .implicit
  | .explicit => (eachFrom parseExplicitRow 0 rows).map .explicit

end Telemetry.Payload
