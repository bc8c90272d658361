import Telemetry.CommandLine.Grammar
import Telemetry.CommandLine.Machine
import Telemetry.Storage.Routing
import Telemetry.Text.Cut
import Telemetry.Text.Table
/-
The administrator's tool: lists storage mappings, and enables and disables them.
-/
namespace Telemetry.CommandLine

open Storage

/-- what an administrator asks for -/
inductive AdministrationTask where
  /-- show mappings, those in one status if one is named -/
  | listMappings (status : Option String)
  /-- enable or disable the mapping that covers an equipment code -/
  | setStatus (equipmentCode : String) (status : Status)
  deriving DecidableEq, Repr

/-- the one argument of a command about a mapping -/
def equipmentCodeGrammar : Grammar where
  operand := some { name := "EQUIPMENT_CODE" }
  required := ["EQUIPMENT_CODE"]

/-- the commands of the administrator's tool -/
def administrationCommands : List (Command AdministrationTask) := [
  { name := "list-mappings", grammar := { options := [{ name := "status" }] },
    meaning := fun given => .listMappings (given.value? "status") },
  { name := "enable-mapping", grammar := equipmentCodeGrammar,
    meaning := fun given => .setStatus ((given.value? "EQUIPMENT_CODE").getD "") .enabled },
  { name := "disable-mapping", grammar := equipmentCodeGrammar,
    meaning := fun given => .setStatus ((given.value? "EQUIPMENT_CODE").getD "") .disabled }]

def namedStatus : Option String → Except Failure (Option Status)
  | none => .ok none
  | some text =>
    match Status.read? text with
    | some status => .ok (some status)
    | none => .error (.ofWords s!"unknown mapping status '{text}'")

def nameAndCode (name code : String) : String :=
  s!"{name} ({code})"

def mappingTable (mappings : List Mapping) : Text.Table where
  header := ["Database", "Measurement", "Equipment codes", "Status", "Brand", "Technology"]
  rows := mappings.map fun m =>
    [m.database, m.measurement, Text.joinWith ", " m.equipmentCodes, m.status.name, nameAndCode m.brandName m.brandCode,
      nameAndCode m.technologyName m.technologyCode]

def shownMappings (mappings : List Mapping) : String :=
  if mappings.isEmpty then "No storage mappings found.\n" else (mappingTable mappings).text ++ "\n"

/-- a mapping whose status was set, as it is shown -/
def shownStatus (m : Mapping) : String :=
  let codes := Text.joinWith ", " m.equipmentCodes
  s!"Mapping {m.database}/{m.measurement} is now {m.status.name} (equipment codes: {codes}).\n"

/-- what a task prints; a status that is none is found before any mapping is asked for -/
def AdministrationTask.run : AdministrationTask → Program Failure String
  | .listMappings status => do
    let wanted ← .ofExcept (namedStatus status)
    let mappings ← Storage.list.mapError .ofService
    return shownMappings (mappings.filter fun m => wanted.all (· == m.status))
  | .setStatus equipmentCode status => do
    let stored ← (Storage.setStatus equipmentCode status).mapError fun e =>
      (Failure.ofService e).during s!"failed to update mapping for '{equipmentCode}'"
    return shownStatus stored

end Telemetry.CommandLine
