import Telemetry.Channel.FieldName
import Telemetry.Query.Function
import Telemetry.Query.Grouping
import Telemetry.Storage.Mapping
import Telemetry.Text.Cut
import Telemetry.Time.Period
/-
Query statements of the historian.

A `Draft` collects what a query is to say; its setters replace one part each. `Draft.read` renders the query for points,
`Draft.fieldKeys` and `Draft.latest` those for the names of stored fields and for the latest point. A draft without equipment
or selection, with an empty list of fields, or with an aggregation over arithmetic has no query for points.
-/
namespace Telemetry.Query

open Channel (decodeFieldName)
open Text (joinWith)

/-! ## Quoting

Identifiers stand in double quotes, values in single quotes. A backslash before a quote keeps it inside; in values a
backslash is doubled as well.
-/

def identifierChar (c : Char) : List Char :=
  if c = '"' then ['\\', '"'] else [c]

def valueChar (c : Char) : List Char :=
  if c = '\\' then ['\\', '\\'] else if c = '\'' then ['\\', '\''] else [c]

def quoteIdentifier (name : String) : String :=
  String.ofList ('"' :: name.toList.flatMap identifierChar ++ ['"'])

def quoteValue (value : String) : String :=
  String.ofList ('\'' :: value.toList.flatMap valueChar ++ ['\''])

/-! ## Drafts -/

/-- a query and the database it runs against -/
structure Statement where
  database : String
  text : String
  deriving DecidableEq, Repr

/-- which episodes a query is about -/
inductive EpisodeFilter where
  /-- every episode, its name shown beside the fields -/
  | any
  /-- one episode -/
  | id (episode : String)
  deriving DecidableEq, Repr

/-- what a query selects -/
inductive Selection where
  | field (name : String)
  | fields (names : List String)
  | allFields
  | math (left : String) (function : MathFunction) (right : String)
  deriving DecidableEq, Repr

/-- a query in the making -/
structure Draft where
  database : String
  measurement : String
  instanceId : Option String := none
  selection : Option Selection := none
  aggregation : Option Aggregation := none
  period : Option Time.Period := none
  episode : Option EpisodeFilter := none
  groupBy : Option GroupBy := none
  deriving DecidableEq, Repr

def episodeTag : String := "Episode"

namespace Draft

def new (database measurement : String) : Draft := { database, measurement }

def forPath (p : Storage.Path) : Draft := new p.database p.measurement

def withInstance (d : Draft) (wkeid : String) : Draft := { d with instanceId := some wkeid }
def selectField (d : Draft) (name : String) : Draft := { d with selection := some (.field name) }
def selectFields (d : Draft) (names : List String) : Draft := { d with selection := some (.fields names) }
def selectAllFields (d : Draft) : Draft := { d with selection := some .allFields }
def selectMath (d : Draft) (left : String) (function : MathFunction) (right : String) : Draft :=
  { d with selection := some (.math left function right) }
def aggregate (d : Draft) (f : Aggregation) : Draft := { d with aggregation := some f }
def during (d : Draft) (p : Time.Period) : Draft := { d with period := some p }
def withEpisode (d : Draft) (e : EpisodeFilter) : Draft := { d with episode := some e }
def grouped (d : Draft) (g : GroupBy) : Draft := { d with groupBy := some g }

/-! ## Rendering -/

def instanceFilter (d : Draft) : Except ServiceError String :=
  match d.instanceId with
  | some wkeid => .ok ("EquipmentInstance=" ++ quoteValue wkeid)
  | none => .error (.unsupportedQuery "no equipment instance filter")

/-- one field, under its alias when aggregated -/
def fieldColumn (aggregation : Option Aggregation) (name : String) : String :=
  match aggregation with
  | none => quoteIdentifier name
  | some f => f.name ++ "(" ++ quoteIdentifier name ++ ") AS " ++ quoteIdentifier (f.name ++ "_" ++ name)

/-- a list of fields, the episode tag at its end when episodes are asked for and raw points are shown -/
def fieldColumns (d : Draft) (names : List String) : Except ServiceError String :=
  if names.isEmpty then .error (.unsupportedQuery "empty field list")
  else
    let columns := names.map (fieldColumn d.aggregation)
    let showsEpisode := d.aggregation.isNone && d.episode.isSome && !names.contains episodeTag
    .ok (joinWith "," (if showsEpisode then columns ++ [quoteIdentifier episodeTag] else columns))

/-- two fields with an operator between them, and the name of the result -/
def mathColumn (left : String) (function : MathFunction) (right : String) : String :=
  let result := (decodeFieldName left).code ++ "_" ++ function.name ++ "_" ++ (decodeFieldName right).code
  quoteIdentifier left ++ " " ++ function.operator ++ " " ++ quoteIdentifier right ++ " AS " ++ quoteIdentifier result

def columns (d : Draft) : Except ServiceError String :=
  match d.selection with
  | none => .error (.unsupportedQuery "no field selection")
  | some .allFields =>
    match d.aggregation with
    | none => .ok "*"
    | some f => .ok (f.name ++ "(*)")
  | some (.field name) => d.fieldColumns [name]
  | some (.fields names) => d.fieldColumns names
  | some (.math left function right) =>
    match d.aggregation with
    | none => .ok (mathColumn left function right)
    | some f => .error (.unsupportedQuery ("aggregation '" ++ f.name ++ "' cannot wrap a math selection"))

def episodeClause (d : Draft) : String :=
  match d.episode with
  | some (.id episode) => " AND " ++ episodeTag ++ "=" ++ quoteValue episode
  | _ => ""

def periodClause (d : Draft) : String :=
  match d.period with
  | some p => " AND time >= " ++ toString p.startNanos ++ " AND time <= " ++ toString p.stopNanos
  | none => ""

def groupClause (d : Draft) : String :=
  match d.groupBy with
  | some g => " GROUP BY time(" ++ g.interval ++ ") FILL(" ++ g.fill.token ++ ")"
  | none => ""

def read (d : Draft) : Except ServiceError Statement := do
  let columns ← d.columns
  let filter ← d.instanceFilter
  return ⟨d.database, "SELECT " ++ columns ++ " FROM " ++ quoteIdentifier d.measurement ++ " WHERE " ++ filter
    ++ d.episodeClause ++ d.periodClause ++ d.groupClause⟩

/-- the query for the names of stored fields -/
def fieldKeys (d : Draft) : Statement :=
  ⟨d.database, "SHOW FIELD KEYS FROM " ++ quoteIdentifier d.measurement⟩

def latest (d : Draft) : Except ServiceError Statement := do
  let filter ← d.instanceFilter
  return ⟨d.database, "SELECT * FROM " ++ quoteIdentifier d.measurement ++ " WHERE " ++ filter
    ++ " ORDER BY time DESC LIMIT 1"⟩

end Draft

end Telemetry.Query
