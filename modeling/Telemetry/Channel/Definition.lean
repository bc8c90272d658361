import Telemetry.Channel.FieldName
import Telemetry.Json.Typed
import Telemetry.Text.Character
/-
Channel definitions: what the catalog knows about a channel.

`Resolved` pairs a definition with the position a payload declares it at and with the name of its field.
-/
namespace Telemetry.Channel

open Json Text

/-- a catalog entry -/
structure Definition where
  /-- assigned when the entry is created -/
  id : Option Uuid := none
  code : String
  dimension : String
  unit : String
  displayName : Option String := none
  legalClassification : Option String := none
  /-- codes of the equipment that has the channel -/
  equipmentCodes : List String := []
  deriving DecidableEq, Repr

/-- the code that marks the time of a row, in any case -/
def isTimeCode (code : String) : Bool :=
  sameIgnoringCase code "time"

namespace Definition

def fieldName (d : Definition) : Except ServiceError String :=
  Channel.fieldName d.code d.unit

/-- the channel carries the time of a row -/
def isTime (d : Definition) : Bool :=
  isTimeCode d.code

def description (d : Definition) : Description :=
  ⟨d.code, d.unit⟩

end Definition

/-- a channel of a payload, matched with its definition -/
structure Resolved where
  /-- the position that explicit rows refer to -/
  index : Nat
  definition : Definition
  fieldName : String
  deriving DecidableEq, Repr

/-- the definition at a position, with the name of its field -/
def Resolved.of (index : Nat) (definition : Definition) : Except ServiceError Resolved :=
  definition.fieldName.map fun name => ⟨index, definition, name⟩

/-- the channel carries the time of a row -/
def Resolved.isTime (c : Resolved) : Bool :=
  c.definition.isTime

/-! ## In JSON -/

def uuidOfJson? (w : Written) : Option Uuid :=
  w.string?.bind Uuid.read?

namespace Definition

def ofJson? (w : Written) : Option Definition := do
  let fields ← w.fields? ["id", "code", "dimension", "unit", "displayName", "legalClassification", "equipmentCodes"]
  let id ← fields.withDefault "id" none (Written.nullable? uuidOfJson?)
  let code ← fields.required "code" Written.string?
  let dimension ← fields.required "dimension" Written.string?
  let unit ← fields.required "unit" Written.string?
  let displayName ← fields.withDefault "displayName" none (Written.nullable? Written.string?)
  let legalClassification ← fields.withDefault "legalClassification" none (Written.nullable? Written.string?)
  let equipmentCodes ← fields.withDefault "equipmentCodes" [] (Written.list? Written.string?)
  return { id, code, dimension, unit, displayName, legalClassification, equipmentCodes }

def toJson (d : Definition) : Value :=
  .record [("id", .ofString? (d.id.map Uuid.text)), ("code", .string d.code), ("dimension", .string d.dimension),
    ("unit", .string d.unit), ("displayName", .ofString? d.displayName),
    ("legalClassification", .ofString? d.legalClassification), ("equipmentCodes", .ofStrings d.equipmentCodes)]

end Definition

def Description.toJson (d : Description) : Value :=
  .record [("code", .string d.code), ("unit", .string d.unit)]

end Telemetry.Channel
