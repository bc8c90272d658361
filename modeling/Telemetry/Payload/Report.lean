import Telemetry.Channel.Resolve
import Telemetry.Failure
/-
What writing a payload would store, without storing it.

A payload for one equipment is reported as one group without an equipment. Of a payload for several, every group is checked
in turn, its id before its rows.
-/
namespace Telemetry.Payload

/-- what the rows of one group would store -/
structure GroupReport where
  equipmentId : Option String
  rows : Nat
  /-- the names of the fields with a value, ascending -/
  fields : List String
  first : Option Time.Instant
  last : Option Time.Instant
  deriving DecidableEq, Repr

/-- the earlier of two instants -/
def earlier (a b : Time.Instant) : Time.Instant :=
  if b < a then b else a

/-- the later of two instants -/
def later (a b : Time.Instant) : Time.Instant :=
  if b < a then a else b

/-- one of some instants, kept or replaced as each is met -/
def chosen (choose : Time.Instant → Time.Instant → Time.Instant) : List Time.Instant → Option Time.Instant
  | [] => none
  | t :: ts => some (ts.foldl choose t)

def GroupReport.ofPoints (equipmentId : Option String) (points : List Point) : GroupReport where
  equipmentId := equipmentId
  rows := points.length
  fields := sortedDistinct (points.flatMap fun p => p.fields.keys)
  first := chosen earlier (points.map (·.time))
  last := chosen later (points.map (·.time))

/-- the report on one group of a payload for several equipments -/
def reportGroup (channels : List Channel.Resolved) (g : ParsedGroup) : Except Failure GroupReport := do
  told (checkEquipmentId g.equipmentId)
  let points ← doing s!"equipment '{g.equipmentId}' has invalid rows" (told (Point.ofRows channels g.rows))
  return .ofPoints (some g.equipmentId) points

def report (content : String) : Program Failure (List GroupReport) := do
  let payload ← .ofExcept (doing "payload is not well formed" ((parseText content).mapError .ofParser))
  let points ← payload.points.mapError .ofService
  return [.ofPoints none points]

/-- the report on a payload for several equipments -/
def reportBulk (content : String) : Program Failure (List GroupReport) := do
  let payload ← .ofExcept (doing "bulk payload is not well formed" ((parseBulkText content).mapError .ofParser))
  let channels ← (Channel.resolve payload.channels).mapError .ofService
  .ofExcept (payload.groups.mapM (reportGroup channels))

end Telemetry.Payload
