import Telemetry.Error
import Telemetry.Query.Function
import Telemetry.Text.Character
/-
Names of stored fields, and the channels they stand for.

A field is named `code.unit`, or by the bare code if the channel has no unit. `decodeFieldName` goes back: it splits at the
last point, and a name that cannot be split with something on both sides is a code without unit. Columns of aggregated
queries carry the function's name and an underscore in front, which `withoutAggregation` takes off.
-/
namespace Telemetry.Channel

open Text

def unitless : String := "unitless"

/-- a channel's code and unit -/
structure Description where
  code : String
  unit : String
  deriving DecidableEq, Repr

/-- the name of a channel's field -/
def encodeFieldName (code unit : String) : String :=
  if unit = unitless then code else code ++ "." ++ unit

/-- the name of a channel's field, if it declares a unit -/
def fieldName (code unit : String) : Except ServiceError String :=
  if isBlankText unit then .error (.missingChannelField code "unit") else .ok (encodeFieldName code unit)

/-- what is before and after the last point -/
def splitAtLastPoint : List Char → Option (List Char × List Char)
  | [] => none
  | c :: cs =>
    match splitAtLastPoint cs with
    | some (before, after) => some (c :: before, after)
    | none => if c = '.' then some ([], cs) else none

/-- the channel a field name stands for -/
def decodeFieldName (name : String) : Description :=
  match splitAtLastPoint name.toList with
  | some (c :: code, u :: unit) => ⟨String.ofList (c :: code), String.ofList (u :: unit)⟩
  | _ => ⟨name, unitless⟩

/-- the characters after a given start -/
def afterStart : List Char → List Char → Option (List Char)
  | [], cs => some cs
  | p :: start, c :: cs => if p = c then afterStart start cs else none
  | _ :: _, [] => none

/-- the field inside a column alias `function_field` -/
def withoutAggregation (column : String) : Option String :=
  Query.Aggregation.all.findSome? fun f =>
    match afterStart (f.name.toList ++ ['_']) column.toList with
    | some (c :: field) => some (String.ofList (c :: field))
    | _ => none

end Telemetry.Channel
