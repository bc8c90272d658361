import Telemetry.Catalog.Seed
import Telemetry.CommandLine.Grammar
import Telemetry.CommandLine.Machine
import Telemetry.Payload.Report
import Telemetry.Query.Request
import Telemetry.Text.Table
/-
The operator's tool: prepares the catalog, shows queries and checks payloads.
-/
namespace Telemetry.CommandLine

/-- what an operator asks for -/
inductive OperatorTask where
  /-- bring the schema up to date -/
  | migrate
  /-- load channels from a seed file -/
  | seedCatalog (file : String) (skipMigrations : Bool)
  /-- show the query of a read -/
  | renderQuery (request : Query.Request)
  /-- check a payload against a seed file, or else against the database -/
  | validatePayload (file : String) (bulk : Bool) (catalog : Option String)
  deriving DecidableEq, Repr

/-! ## Command lines -/

def queryGrammar : Grammar where
  options := [{ name := "database" }, { name := "measurement" }, { name := "wkeid" },
    { name := "field", repeats := true }, { name := "all-fields", values := 0 },
    { name := "math", values := 3, repeats := true }, { name := "aggregation" }, { name := "start" }, { name := "end" },
    { name := "group-by" }, { name := "fill" }, { name := "episode", values := 0 }, { name := "episode-id" },
    { name := "show-field-keys", values := 0 }, { name := "latest", values := 0 }]
  required := ["database", "measurement"]
  conflicts := [("all-fields", "field"), ("all-fields", "math"), ("math", "field"), ("show-field-keys", "latest")]
  requires := [("start", "end"), ("end", "start"), ("fill", "group-by")]

/-- the query that some arguments describe -/
def queryRequest (given : Given) : Query.Request where
  database := (given.value? "database").getD ""
  measurement := (given.value? "measurement").getD ""
  wkeid := given.value? "wkeid"
  fields := given.values "field"
  allFields := given.has "all-fields"
  math := given.lookup "math"
  aggregation := given.value? "aggregation"
  start := given.value? "start"
  stop := given.value? "end"
  groupBy := given.value? "group-by"
  fill := given.value? "fill"
  episode := given.has "episode"
  episodeId := given.value? "episode-id"
  showFieldKeys := given.has "show-field-keys"
  latest := given.has "latest"

def operatorCommands : List (Command OperatorTask) := [
  { name := "migrate", grammar := {}, meaning := fun _ => .migrate },
  { name := "seed-catalog"
    grammar := { options := [{ name := "file", isPath := true }, { name := "skip-migrations", values := 0 }],
                 required := ["file"] }
    meaning := fun given => .seedCatalog ((given.value? "file").getD "") (given.has "skip-migrations") },
  { name := "render-query", grammar := queryGrammar, meaning := fun given => .renderQuery (queryRequest given) },
  { name := "validate-payload"
    grammar := { options := [{ name := "bulk", values := 0 }, { name := "catalog", isPath := true }],
                 operand := some { name := "FILE", isPath := true }, required := ["FILE"] }
    meaning := fun given =>
      .validatePayload ((given.value? "FILE").getD "") (given.has "bulk") (given.value? "catalog") }]

/-! ## Tasks -/

def readSeed (m : Machine) (path : String) : Except Failure Catalog.Seed := do
  let content ← m.read "failed to read seed file" path
  Catalog.Seed.ofToml content

def seededWorld (seed : Catalog.Seed) : Except Failure World :=
  let (outcomes, world) := (Catalog.load seed.channels).run (seed.world [])
  outcomes.map fun _ => world

def reportsOn (content : String) (bulk : Bool) (w : World) : Except Failure (List Payload.GroupReport) :=
  ((if bulk then Payload.reportBulk content else Payload.report content).run w).1

def reportTable (reports : List Payload.GroupReport) : Text.Table where
  header := ["Equipment", "Rows", "Fields", "First", "Last"]
  rows := reports.map fun r =>
    [r.equipmentId.getD "-", toString r.rows, Text.joinWith ", " r.fields, (r.first.map Time.Instant.offsetText).getD "",
      (r.last.map Time.Instant.offsetText).getD ""]

/-- what is being done when the operator's tool needs the database -/
def connecting : List String := ["failed to connect to the channel metadata database"]

def shownQuery (q : Query.Statement) : String :=
  "-- database: " ++ q.database ++ "\n" ++ q.text ++ "\n"

def OperatorTask.files : OperatorTask → List String
  | .migrate | .renderQuery _ => []
  | .seedCatalog file _ => [file]
  | .validatePayload file _ catalog => file :: catalog.toList

def OperatorTask.run (m : Machine) : OperatorTask → Except Failure String
  | .migrate => do
    let settings ← m.loadSettings
    .error (databaseFailure connecting settings)
  | .seedCatalog file _ => do
    let settings ← m.loadSettings
    let _ ← readSeed m file
    .error (databaseFailure connecting settings)
  | .renderQuery request => request.statement.map shownQuery
  | .validatePayload file bulk catalog => do
    let content ← m.read "failed to read payload" file
    match catalog with
    | some path =>
      let seed ← readSeed m path
      let world ← seededWorld seed
      let reports ← reportsOn content bulk world
      return (reportTable reports).text ++ "\n"
    | none =>
      let settings ← m.loadSettings
      .error (databaseFailure connecting settings)

end Telemetry.CommandLine
