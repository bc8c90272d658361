import Telemetry.Channel.Definition
import Telemetry.Equipment
import Telemetry.Main
import Telemetry.Payload.Declared
import Telemetry.Point
import Telemetry.Query.Json
import Telemetry.Service
import Telemetry.Settings
import Telemetry.Storage.Mapping
import Telemetry.Time.Period
import Telemetry.Proofs.Program.Calls
import Telemetry.Proofs.Storage.Growth
import Telemetry.Proofs.Surroundings
import Telemetry.Proofs.Quiet
import Telemetry.Proofs.Storage.Routing
import Telemetry.Proofs.Storage.Evolution
import Telemetry.Proofs.Service.EnabledWrites
import Telemetry.Proofs.Payload.RowCounts
import Telemetry.Proofs.Service.BulkWrite
import Telemetry.Proofs.Query.Plain
import Telemetry.Proofs.Query.Scan
import Telemetry.Proofs.Query.Rendering
import Telemetry.Proofs.Alike
import Telemetry.Proofs.Cache.Entries
import Telemetry.Proofs.Channel.Changes
import Telemetry.Proofs.Catalog.Changes
import Telemetry.Proofs.Catalog.Integrity
import Telemetry.Proofs.Catalog.Transparency
import Telemetry.Proofs.Storage.CachedRoutes
import Telemetry.Proofs.Point.Encodings
import Telemetry.Proofs.Catalog.Repeated
import Telemetry.Proofs.Payload.Formats
import Telemetry.Proofs.Service.OneByOne
import Telemetry.Proofs.Json.InRange
import Telemetry.Proofs.Channel.FieldNames
import Telemetry.Proofs.Payload.Declared
import Telemetry.Proofs.Point.Fields
import Telemetry.Proofs.Catalog.FieldNames
import Telemetry.Proofs.Program.Race
import Telemetry.Proofs.Storage.Coverage
import Telemetry.Proofs.Storage.StableRoutes
import Telemetry.Proofs.Storage.StatusRace
import Telemetry.Proofs.Service.ReadPipeline
import Telemetry.Proofs.Service.DryRun
import Telemetry.Proofs.Storage.ReadAfterWrite
import Telemetry.Proofs.Service.ReadAfterWrite
import Telemetry.Proofs.Catalog.EvictionRace
import Telemetry.Proofs.Payload.Rows
import Telemetry.Proofs.Catalog.Descriptions
import Telemetry.Proofs.Payload.Groups
import Telemetry.Proofs.Catalog.Declarable
import Telemetry.Proofs.Storage.AnyOrder
import Telemetry.Proofs.Catalog.Reassignment
import Telemetry.Proofs.Catalog.Seeding
import Telemetry.Proofs.Service.PrintedQuery
import Telemetry.Proofs.Query.Escapes
import Telemetry.Proofs.Payload.Declarations
import Telemetry.Proofs.Point.Acceptance
import Telemetry.Proofs.Catalog.Aliases
import Telemetry.Proofs.Time.Ticks
import Telemetry.Proofs.Decimal.Digits
import Telemetry.Proofs.Time.Calendar
import Telemetry.Proofs.Time.Fields
import Telemetry.Proofs.Time.Forms
import Telemetry.Proofs.Payload.ReportedTimes
import Telemetry.Proofs.Storage.BlankCodes
import Telemetry.Proofs.Payload.Culprits
import Telemetry.Proofs.Catalog.CheckOrder
import Telemetry.Proofs.Catalog.Refusals
import Telemetry.Proofs.Settings.BlankVariables
import Telemetry.Proofs.Time.Trailing
import Telemetry.Proofs.Service.ListedFields
import Telemetry.Proofs.Settings.Windows
import Telemetry.Proofs.Query.Intervals
import Telemetry.Proofs.Json.Texts
import Telemetry.Proofs.Query.Origins
import Telemetry.Proofs.Cache.History
