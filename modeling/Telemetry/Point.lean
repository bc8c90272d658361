import Telemetry.Collections
import Telemetry.Error
import Telemetry.Json.Typed
import Telemetry.Json.Value
import Telemetry.Time.Instant
/-
Points: what is stored of a row, a time and named field values; and what the historian answers, flat rows keyed by column
and series of values under column names.

In JSON a field value is a bare number, truth value or text.
-/
namespace Telemetry

open Decimal Json

/-- a stored value -/
inductive FieldValue where
  /-- a signed integer of 64 bits -/
  | integer (i : Int)
  | float (x : Decimal.Binary64)
  | boolean (b : Bool)
  | text (s : String)
  deriving DecidableEq, Repr

namespace FieldValue

/-- a number is stored as an integer if it is one of 64 bits with sign, else as a binary number -/
def ofNumber : Number → FieldValue
  | .int i => if leastInt64 ≤ i ∧ i ≤ greatestInt64 then .integer i else .float (Number.int i).toBinary64
  | .float x => .float x

end FieldValue

/-- a time and the values of fields at it -/
structure Point where
  time : Time.Instant
  fields : SortedMap FieldValue
  deriving DecidableEq, Repr

/-! ## Answers of the historian -/

abbrev Historian.Row := List (String × Value)

/-- one series of an answer -/
structure Historian.Series where
  name : String
  columns : List String := []
  values : List (List Value) := []

/-! ## In JSON -/

def FieldValue.ofJson? : Written → Option FieldValue
  | .bool b => some (.boolean b)
  | .number n => (Number.ofNumeral? n).map .ofNumber
  | .string pieces => (text? pieces).map .text
  | _ => none

def FieldValue.toJson : FieldValue → Value
  | .integer i => .ofInt i
  | .float x => .number (.float x)
  | .boolean b => .bool b
  | .text s => .string s

/-- reads a series; its values lie inside two other arrays and an object -/
def Historian.Series.ofJson? (w : Written) : Option Historian.Series := do
  let fields ← w.fields? ["name", "columns", "values"]
  let name ← fields.required "name" Written.string?
  let columns ← fields.withDefault "columns" [] (Written.list? Written.string?)
  let values ← fields.withDefault "values" [] (Written.list? (Written.list? (Written.toValue? (depthLimit - 3))))
  return { name, columns, values }

def Historian.Series.toJson (s : Historian.Series) : Value :=
  .record [("name", .string s.name), ("columns", .ofStrings s.columns), ("values", .array (s.values.map .array))]

end Telemetry
