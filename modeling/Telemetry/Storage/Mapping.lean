import Telemetry.Json.Typed
import Telemetry.Text.Character
import Telemetry.Text.Cut
import Telemetry.Text.UpperCase
import Telemetry.Uuid
/-
Storage mappings: which equipment codes are stored in which measurement.

A path says where an equipment's rows are stored: a database, a measurement in it, and the equipment code. A mapping covers a
list of equipment codes and is enabled or disabled. A candidate is what the hierarchy suggests for a code that no mapping
covers; it becomes a disabled mapping for this one code. Databases and measurements are named by `storageName`: the words of
a hierarchy name in capitals, joined by underscores.
-/
namespace Telemetry.Storage

open Json Text

def storageName (name : String) : String :=
  String.ofList (upper (joinLists ['_'] (words name.toList)))

/-- the place of an equipment code's rows -/
structure Path where
  database : String
  measurement : String
  equipmentCode : String
  deriving DecidableEq, Repr

def Path.display (p : Path) : String :=
  s!"{p.database}/{p.measurement} ({p.equipmentCode})"

/-- whether rows may be written through a mapping -/
inductive Status where
  | enabled | disabled
  deriving DecidableEq, Repr

namespace Status

def name : Status → String
  | .enabled => "enabled"
  | .disabled => "disabled"

/-- the status written, in any case and with blanks around it -/
def read? (s : String) : Option Status :=
  let word := foldCase (trim s)
  if word = "enabled" then some .enabled
  else if word = "disabled" then some .disabled
  else none

end Status

/-- a measurement and the equipment codes stored in it -/
structure Mapping where
  id : Uuid
  database : String
  measurement : String
  equipmentCodes : List String
  status : Status
  brandCode : String
  technologyCode : String
  brandName : String
  technologyName : String
  deriving DecidableEq, Repr

namespace Mapping

/-- rows may be written -/
def isEnabled (m : Mapping) : Bool :=
  m.status == .enabled

def covers (m : Mapping) (equipmentCode : String) : Bool :=
  m.equipmentCodes.contains equipmentCode

def pathFor (m : Mapping) (equipmentCode : String) : Path :=
  ⟨m.database, m.measurement, equipmentCode⟩

end Mapping

/-- the measurement that the hierarchy suggests for an equipment code -/
structure Candidate where
  database : String
  measurement : String
  equipmentCode : String
  brandCode : String
  technologyCode : String
  brandName : String
  technologyName : String
  deriving DecidableEq, Repr

namespace Candidate

/-- a disabled mapping for the candidate's code alone -/
def toMapping (c : Candidate) (id : Uuid) : Mapping :=
  { id, database := c.database, measurement := c.measurement, equipmentCodes := [c.equipmentCode], status := .disabled,
    brandCode := c.brandCode, technologyCode := c.technologyCode, brandName := c.brandName,
    technologyName := c.technologyName }

def path (c : Candidate) : Path :=
  ⟨c.database, c.measurement, c.equipmentCode⟩

/-- the mapping is about the candidate's measurement -/
def matchesMapping (c : Candidate) (m : Mapping) : Bool :=
  m.database == c.database && m.measurement == c.measurement

end Candidate

/-- what provisioning did -/
structure ProvisionOutcome where
  mapping : Mapping
  /-- the measurement had no mapping before -/
  created : Bool
  deriving DecidableEq, Repr

/-! ## In JSON

In a path the database goes by the name of its technology and the measurement by that of its brand.
-/

def Path.ofJson? (w : Written) : Option Path := do
  let fields ← w.fields? ["technology", "brand", "equipmentCode"]
  let database ← fields.required "technology" Written.string?
  let measurement ← fields.required "brand" Written.string?
  let equipmentCode ← fields.required "equipmentCode" Written.string?
  return ⟨database, measurement, equipmentCode⟩

def Path.toJson (p : Path) : Value :=
  .record [("technology", .string p.database), ("brand", .string p.measurement),
    ("equipmentCode", .string p.equipmentCode)]

def Status.ofJson? (w : Written) : Option Status :=
  w.unitVariant?.bind fun name => [Status.enabled, .disabled].find? (·.name == name)

def Status.toJson (s : Status) : Value := .string s.name

def Mapping.ofJson? (w : Written) : Option Mapping := do
  let fields ← w.fields? ["id", "databaseName", "measurementName", "equipmentCodes", "status", "brandCode",
    "technologyCode", "brandName", "technologyName"]
  let id ← fields.required "id" fun w => w.string?.bind Uuid.read?
  let database ← fields.required "databaseName" Written.string?
  let measurement ← fields.required "measurementName" Written.string?
  let equipmentCodes ← fields.required "equipmentCodes" (Written.list? Written.string?)
  let status ← fields.required "status" Status.ofJson?
  let brandCode ← fields.required "brandCode" Written.string?
  let technologyCode ← fields.required "technologyCode" Written.string?
  let brandName ← fields.required "brandName" Written.string?
  let technologyName ← fields.required "technologyName" Written.string?
  return { id, database, measurement, equipmentCodes, status, brandCode, technologyCode, brandName, technologyName }

def Mapping.toJson (m : Mapping) : Value :=
  .record [("id", .string m.id.text), ("databaseName", .string m.database), ("measurementName", .string m.measurement),
    ("equipmentCodes", .ofStrings m.equipmentCodes), ("status", m.status.toJson), ("brandCode", .string m.brandCode),
    ("technologyCode", .string m.technologyCode), ("brandName", .string m.brandName),
    ("technologyName", .string m.technologyName)]

def Candidate.ofJson? (w : Written) : Option Candidate := do
  let fields ← w.fields? ["databaseName", "measurementName", "equipmentCode", "brandCode", "technologyCode", "brandName",
    "technologyName"]
  let database ← fields.required "databaseName" Written.string?
  let measurement ← fields.required "measurementName" Written.string?
  let equipmentCode ← fields.required "equipmentCode" Written.string?
  let brandCode ← fields.required "brandCode" Written.string?
  let technologyCode ← fields.required "technologyCode" Written.string?
  let brandName ← fields.required "brandName" Written.string?
  let technologyName ← fields.required "technologyName" Written.string?
  return { database, measurement, equipmentCode, brandCode, technologyCode, brandName, technologyName }

def Candidate.toJson (c : Candidate) : Value :=
  .record [("databaseName", .string c.database), ("measurementName", .string c.measurement),
    ("equipmentCode", .string c.equipmentCode), ("brandCode", .string c.brandCode),
    ("technologyCode", .string c.technologyCode), ("brandName", .string c.brandName),
    ("technologyName", .string c.technologyName)]

end Telemetry.Storage
