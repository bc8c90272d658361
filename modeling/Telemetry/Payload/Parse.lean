import Telemetry.Payload.Declared
import Telemetry.Payload.Rows
/-
Payloads with their channels declared and their rows in one format.

In a payload for several equipments the format is decided once, over the rows of all groups in order; a row that does not
fit is reported under its equipment with its position in that group.
-/
namespace Telemetry.Payload

open Json

/-- a checked payload for one equipment -/
structure Parsed where
  channels : List DeclaredChannel
  rows : Rows

/-- the checked rows of one equipment -/
structure ParsedGroup where
  equipmentId : String
  rows : Rows

/-- a checked payload for several equipments -/
structure ParsedBulk where
  channels : List DeclaredChannel
  format : Format
  groups : List ParsedGroup

/-- checks channels, then the format, then the rows -/
def Single.parse (p : Single) : Except ParserError Parsed := do
  let channels ← parseChannels p.channels
  let format ← detectFormat p.rows
  let rows ← Rows.parse p.rows format
  return ⟨channels, rows⟩

def Group.parse (format : Format) (g : Group) : Except ParserError ParsedGroup :=
  match Rows.parse g.rows format with
  | .ok rows => .ok ⟨g.equipmentId, rows⟩
  | .error e => .error (.inEquipment g.equipmentId e)

/-- the rows of groups in a format, up to the first failure -/
def parseGroups (format : Format) : List Group → Except ParserError (List ParsedGroup)
  | [] => .ok []
  | g :: gs => do
    let p ← g.parse format
    let ps ← parseGroups format gs
    return p :: ps

/-- checks channels, then the format over all groups, then the rows group by group -/
def Bulk.parse (p : Bulk) : Except ParserError ParsedBulk := do
  let channels ← parseChannels p.channels
  let format ← detectFormat (p.groups.flatMap Group.rows)
  let groups ← parseGroups format p.groups
  return ⟨channels, format, groups⟩

/-- reads and checks a payload for one equipment -/
def parseText (content : String) : Except ParserError Parsed :=
  match (Json.read content).bind Single.ofJson? with
  | some p => p.parse
  | none => .error .json

/-- reads and checks a payload for several equipments -/
def parseBulkText (content : String) : Except ParserError ParsedBulk :=
  match (Json.read content).bind Bulk.ofJson? with
  | some p => p.parse
  | none => .error .json

end Telemetry.Payload
