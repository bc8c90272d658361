import Telemetry.Failure
import Telemetry.Query.Statement
/-
Query requests: a query described in words, as an operator gives it.

The query for field names comes before the one for the latest point, and both before the query for points. Of the things to
select, arithmetic comes first, then every field, then the named fields.
-/
namespace Telemetry.Query

/-- a query in words -/
structure Request where
  database : String
  measurement : String
  wkeid : Option String := none
  fields : List String := []
  allFields : Bool := false
  /-- left field, function and right field -/
  math : Option (List String) := none
  aggregation : Option String := none
  start : Option String := none
  stop : Option String := none
  groupBy : Option String := none
  fill : Option String := none
  episode : Bool := false
  episodeId : Option String := none
  showFieldKeys : Bool := false
  latest : Bool := false
  deriving DecidableEq, Repr

namespace Request

/-- a draft about the measurement, and the equipment if one is named -/
def draft (r : Request) : Draft :=
  let d := Draft.new r.database r.measurement
  match r.wkeid with
  | some wkeid => d.withInstance wkeid
  | none => d

def selected (r : Request) (d : Draft) : Except Failure Draft :=
  match r.math with
  | some [left, function, right] => do
    let f ← told (MathFunction.read function)
    return d.selectMath left f right
  | some _ => .error (.ofWords "--math takes exactly three values")
  | none =>
    if r.allFields then .ok d.selectAllFields
    else
      match r.fields with
      | [name] => .ok (d.selectField name)
      | names => .ok (d.selectFields names)

def aggregated (r : Request) (d : Draft) : Except Failure Draft :=
  match r.aggregation with
  | none => .ok d
  | some name => (told (Aggregation.read name)).map d.aggregate

/-- the draft with the period, if both of its ends are given -/
def within (r : Request) (d : Draft) : Except Failure Draft :=
  match r.start, r.stop with
  | some start, some stop => (doing "invalid time period" (told (Time.Period.read start stop))).map d.during
  | _, _ => .ok d

/-- the draft with the grouping, if an interval is given -/
def grouped (r : Request) (d : Draft) : Except Failure Draft :=
  match r.groupBy with
  | none => .ok d
  | some interval => (told (GroupBy.read interval r.fill)).map d.grouped

/-- the draft with the episode; a named one counts before any -/
def ofEpisode (r : Request) (d : Draft) : Draft :=
  match r.episodeId with
  | some id => d.withEpisode (.id id)
  | none => if r.episode then d.withEpisode .any else d

def points (r : Request) : Except Failure Statement := do
  let d ← r.selected r.draft
  let d ← r.aggregated d
  let d ← r.within d
  let d ← r.grouped d
  told (r.ofEpisode d).read

def statement (r : Request) : Except Failure Statement :=
  if r.showFieldKeys then .ok r.draft.fieldKeys
  else if r.latest then told r.draft.latest
  else r.points

end Request

end Telemetry.Query
