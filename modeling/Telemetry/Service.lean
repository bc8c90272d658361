import Telemetry.Channel.Resolve
import Telemetry.Storage.Routing
/-
The service: reading and writing the channel data of equipment.

A read finds the equipment and its path, the channels and their fields, a period (the given one, else a window that ends at
the latest point), and asks for those fields that are stored. A write maps all rows to points before it asks for a path, and
a payload without rows asks for none. A write for several equipments settles every equipment, every row and every path
before the first point is stored.
-/
namespace Telemetry

open Query (Draft Aggregation MathFunction GroupBy EpisodeFilter)

/-- the settings that answers depend on -/
structure Service where
  supportContact : String
  defaultWindowHours : Int
  deriving DecidableEq, Repr

/-- what to read; no channels means every field -/
structure ReadRequest where
  wkeid : String
  channels : List String
  aggregation : Option Aggregation := none
  period : Option Time.Period := none
  groupBy : Option GroupBy := none
  episode : Option EpisodeFilter := none
  deriving DecidableEq, Repr

/-- two channels to combine -/
structure MathRequest where
  wkeid : String
  left : String
  function : MathFunction
  right : String
  period : Option Time.Period := none
  deriving DecidableEq, Repr

/-- a column of an answer; the time and the episode are no channels -/
structure ResponseColumn where
  name : String
  channel : Option Channel.Description
  deriving DecidableEq, Repr

/-- a series of an answer -/
structure ChannelSeries where
  name : String
  columns : List ResponseColumn
  values : List (List Json.Value)

/-- the answer to a read -/
structure ReadResponse where
  wkeid : String
  path : Option Storage.Path := none
  period : Option Time.Period := none
  series : List ChannelSeries := []

def ReadResponse.isEmpty (r : ReadResponse) : Bool :=
  r.series.all fun s => s.values.isEmpty

/-- the answer to a write -/
structure WriteSummary where
  wkeid : String
  /-- none when there was nothing to write -/
  path : Option Storage.Path
  rowsWritten : Nat
  deriving DecidableEq, Repr

def WriteSummary.nothing (wkeid : String) : WriteSummary :=
  ⟨wkeid, none, 0⟩

namespace Service

/-! ## Finding things -/

/-- the record of a piece of equipment with a well-formed id -/
def equipmentFor (wkeid : String) : Action Equipment := do
  .ofExcept (checkEquipmentId wkeid)
  let found ← Equipment.find wkeid
  .orFail (.equipmentNotFound wkeid) found

/-- a draft about the equipment's rows -/
def draftFor (path : Storage.Path) (wkeid : String) : Draft :=
  (Draft.forPath path).withInstance wkeid

/-- the period to read: the requested one, else the window before the latest point, if there is a point -/
def periodFor (service : Service) (draft : Draft) : Option Time.Period → Action (Option Time.Period)
  | some period => return some period
  | none => do
    let query ← .ofExcept draft.latest
    match ← Historian.latest query with
    | none => return none
    | some stop =>
      let period ← .ofExcept (Time.Period.trailing stop service.defaultWindowHours)
      return some period

/-- the column of field names in the answer to the query for them -/
def fieldKeyColumn : String := "fieldKey"

def fieldKeyOf (row : Historian.Row) : Option String :=
  (row.lookup fieldKeyColumn).bind Json.Value.string?

/-- the names of the stored fields of a measurement -/
def storedFields (draft : Draft) : Action (List String) := do
  let rows ← Historian.rows draft.fieldKeys
  return rows.filterMap fieldKeyOf

def fieldNames : List Channel.Definition → Except ServiceError (List String)
  | [] => .ok []
  | d :: ds => do
    let name ← d.fieldName
    let names ← fieldNames ds
    return name :: names

/-! ## Shaping answers -/

def describeColumn (name : String) : Action ResponseColumn :=
  if name = "time" ∨ name = Query.episodeTag then return ⟨name, none⟩
  else do
    let channel ← Catalog.describe name
    return ⟨name, some channel⟩

def describeColumns : List String → Action (List ResponseColumn)
  | [] => return []
  | name :: names => do
    let column ← describeColumn name
    let columns ← describeColumns names
    return column :: columns

def describeSeries : List Historian.Series → Action (List ChannelSeries)
  | [] => return []
  | s :: ss => do
    let columns ← describeColumns s.columns
    let rest ← describeSeries ss
    return ⟨s.name, columns, s.values⟩ :: rest

/-- runs a query and shapes its answer -/
def respond (wkeid : String) (path : Storage.Path) (period : Time.Period) (query : Query.Statement) :
    Action ReadResponse := do
  let series ← Historian.series query
  let series ← describeSeries series
  return { wkeid, path := some path, period := some period, series }

/-! ## Reading -/

/-- the draft with fields selected: every field if none is named, else those of the named ones that are stored -/
def selectStored (draft : Draft) (named : List String) : Action (Option Draft) :=
  if named.isEmpty then return some draft.selectAllFields
  else do
    let stored ← storedFields draft
    match named.filter stored.contains with
    | [] => return none
    | [name] => return some (draft.selectField name)
    | names => return some (draft.selectFields names)

/-- the draft with the request's aggregation, grouping and episode -/
def refine (draft : Draft) (request : ReadRequest) : Draft :=
  { draft with
    aggregation := request.aggregation.or draft.aggregation
    groupBy := request.groupBy.or draft.groupBy
    episode := request.episode.or draft.episode }

def read (service : Service) (request : ReadRequest) : Action ReadResponse := do
  let wkeid := request.wkeid
  let equipment ← equipmentFor wkeid
  match ← Storage.routeRead service.supportContact equipment with
  | none => return { wkeid }
  | some path =>
    let definitions ← Catalog.requireAll .cached request.channels
    let named ← .ofExcept (fieldNames definitions)
    match ← service.periodFor (draftFor path wkeid) request.period with
    | none => return { wkeid, path := some path }
    | some period =>
      match ← selectStored (draftFor path wkeid) named with
      | none => return { wkeid, path := some path, period := some period }
      | some draft =>
        let query ← .ofExcept (refine (draft.during period) request).read
        respond wkeid path period query

/-- reads two channels combined -/
def readMath (service : Service) (request : MathRequest) : Action ReadResponse := do
  let wkeid := request.wkeid
  let equipment ← equipmentFor wkeid
  match ← Storage.routeRead service.supportContact equipment with
  | none => return { wkeid }
  | some path =>
    let leftDefinition ← Catalog.require request.left .cached
    let rightDefinition ← Catalog.require request.right .cached
    let left ← .ofExcept leftDefinition.fieldName
    let right ← .ofExcept rightDefinition.fieldName
    match ← service.periodFor (draftFor path wkeid) request.period with
    | none => return { wkeid, path := some path }
    | some period =>
      let stored ← storedFields (draftFor path wkeid)
      if stored.contains left && stored.contains right then
        let query ← .ofExcept (((draftFor path wkeid).during period).selectMath left request.function right).read
        respond wkeid path period query
      else return { wkeid, path := some path, period := some period }

def latest (service : Service) (wkeid : String) : Action (Option Time.Instant) := do
  let equipment ← equipmentFor wkeid
  match ← Storage.routeRead service.supportContact equipment with
  | none => return none
  | some path =>
    let query ← .ofExcept (draftFor path wkeid).latest
    Historian.latest query

/-- channels behind field names -/
def describeFields : List String → Action (List Channel.Description)
  | [] => return []
  | name :: names => do
    let d ← Catalog.describe name
    let ds ← describeFields names
    return d :: ds

/-- the channels behind the stored fields of the equipment's measurement, in the order of their names -/
def fields (service : Service) (wkeid : String) : Action (List Channel.Description) := do
  let equipment ← equipmentFor wkeid
  match ← Storage.routeRead service.supportContact equipment with
  | none => return []
  | some path =>
    let names ← storedFields (draftFor path wkeid)
    describeFields (sortedDistinct names)

/-! ## Writing -/

/-- stores points and tells how many -/
def store (wkeid : String) (path : Storage.Path) (points : List Point) : Action WriteSummary := do
  Historian.write path wkeid points
  return ⟨wkeid, some path, points.length⟩

def write (service : Service) (wkeid : String) (payload : Payload.Single) : Action WriteSummary := do
  let equipment ← equipmentFor wkeid
  let parsed ← .mapError .ofParser (.ofExcept payload.parse)
  let points ← parsed.points
  if points.isEmpty then return .nothing wkeid
  let path ← Storage.routeWrite service.supportContact equipment
  store wkeid path points

def mapGroups (channels : List Channel.Resolved) : List Payload.ParsedGroup → Action (List (Equipment × List Point))
  | [] => return []
  | g :: gs => do
    let equipment ← equipmentFor g.equipmentId
    let points ← .ofExcept (Point.ofRows channels g.rows)
    let rest ← mapGroups channels gs
    return (equipment, points) :: rest

/-- points on their way: the equipment, the path if there are any, and the points -/
structure Planned where
  wkeid : String
  path : Option Storage.Path
  points : List Point
  deriving DecidableEq, Repr

def planGroups (service : Service) : List (Equipment × List Point) → Action (List Planned)
  | [] => return []
  | (equipment, points) :: groups => do
    let path ← if points.isEmpty then pure none
      else do
        let path ← Storage.routeWrite service.supportContact equipment
        pure (some path)
    let rest ← planGroups service groups
    return ⟨equipment.wkeid, path, points⟩ :: rest

/-- stores each group that has a path -/
def storePlanned : List Planned → Action (List WriteSummary)
  | [] => return []
  | p :: ps => do
    let summary ← match p.path with
      | some path => store p.wkeid path p.points
      | none => pure (.nothing p.wkeid)
    let summaries ← storePlanned ps
    return summary :: summaries

/-- writes the rows of several equipments -/
def writeBulk (service : Service) (payload : Payload.Bulk) : Action (List WriteSummary) := do
  let parsed ← .mapError .ofParser (.ofExcept payload.parse)
  let channels ← Channel.resolve parsed.channels
  let mapped ← mapGroups channels parsed.groups
  let planned ← service.planGroups mapped
  storePlanned planned

end Service

end Telemetry
