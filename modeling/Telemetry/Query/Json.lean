import Telemetry.Json.Typed
import Telemetry.Query.Statement
/-
Parts of queries in JSON.

A grouping is read as it stands: its interval is not held to the form that `GroupBy.new` asks for.
-/
namespace Telemetry.Query

open Json

def Aggregation.ofJson? (w : Written) : Option Aggregation :=
  w.unitVariant?.bind fun name => Aggregation.all.find? (·.name == name)

def Aggregation.toJson (f : Aggregation) : Value := .string f.name

/-- reads an arithmetic function by its exact name -/
def MathFunction.ofJson? (w : Written) : Option MathFunction :=
  w.unitVariant?.bind fun name => MathFunction.all.find? (·.name == name)

def MathFunction.toJson (f : MathFunction) : Value := .string f.name

def FillPolicy.ofJson? (w : Written) : Option FillPolicy :=
  match w.variant? with
  | some ("Value", some x) => x.binary64?.map .value
  | some ("Value", Option.none) | Option.none => Option.none
  | some (name, carried) =>
    match carried with
    | Option.none | some .null =>
      if name = "Null" then some .null
      else if name = "None" then some .none
      else if name = "Previous" then some .previous
      else if name = "Linear" then some .linear
      else Option.none
    | some _ => Option.none

def FillPolicy.toJson : FillPolicy → Value
  | .null => .string "Null"
  | .none => .string "None"
  | .previous => .string "Previous"
  | .linear => .string "Linear"
  | .value x => .record [("Value", .number (.float x))]

def EpisodeFilter.ofJson? (w : Written) : Option EpisodeFilter :=
  match w.variant? with
  | some ("Any", none) | some ("Any", some .null) => some .any
  | some ("Id", some episode) => episode.string?.map .id
  | _ => none

def EpisodeFilter.toJson : EpisodeFilter → Value
  | .any => .string "Any"
  | .id episode => .record [("Id", .string episode)]

def GroupBy.ofJson? (w : Written) : Option GroupBy := do
  let fields ← w.fields? ["interval", "fill"]
  let interval ← fields.required "interval" Written.string?
  let fill ← fields.required "fill" FillPolicy.ofJson?
  return ⟨interval, fill⟩

def GroupBy.toJson (g : GroupBy) : Value :=
  .record [("interval", .string g.interval), ("fill", g.fill.toJson)]

end Telemetry.Query
