import Telemetry.Error
import Telemetry.Json.Typed
import Telemetry.Text.Character
/-
Equipment: a material and serial number, and where it is classified in the hierarchy.

A classification whose code is blank counts as missing. The hierarchy itself is made of named nodes under well-known codes.
-/
namespace Telemetry

open Json Text

/-- letters, digits and `_ . -`, all ASCII -/
def isIdChar (c : Char) : Bool :=
  ('A' ≤ c && c ≤ 'Z') || ('a' ≤ c && c ≤ 'z') || ('0' ≤ c && c ≤ '9') || c == '_' || c == '.' || c == '-'

/-- the form `material:serial` with both parts non-empty -/
def isEquipmentId (cs : List Char) : Bool :=
  match cs.dropWhile isIdChar with
  | ':' :: serial => !(cs.takeWhile isIdChar).isEmpty && !serial.isEmpty && serial.all isIdChar
  | _ => false

/-- refuses an id that is not in the form `material:serial` -/
def checkEquipmentId (wkeid : String) : Except ServiceError Unit :=
  if isEquipmentId wkeid.toList then .ok () else .error (.invalidEquipmentId wkeid)

/-- what a classification says -/
inductive ClassificationKind where
  | equipmentSystem | brand | technology
  deriving DecidableEq, Repr

/-- a place of the equipment in the hierarchy -/
structure Classification where
  kind : ClassificationKind
  code : String
  deriving DecidableEq, Repr

/-- a piece of equipment -/
structure Equipment where
  wkeid : String
  materialNumber : String
  classifications : List Classification := []
  deriving DecidableEq, Repr

namespace Equipment

/-- the code of the first classification of a kind, if it is not blank -/
def classification (e : Equipment) (kind : ClassificationKind) : Option String :=
  ((e.classifications.find? fun c => c.kind == kind).map (·.code)).filter fun code => !isBlankText code

def equipmentCode (e : Equipment) : Option String := e.classification .equipmentSystem
def brandCode (e : Equipment) : Option String := e.classification .brand
def technologyCode (e : Equipment) : Option String := e.classification .technology

end Equipment

/-- a named node of the hierarchy -/
structure Hierarchy.Node where
  /-- the code the node is known by -/
  code : String
  name : String
  children : List String := []
  deriving DecidableEq, Repr

/-! ## In JSON -/

def ClassificationKind.name : ClassificationKind → String
  | .equipmentSystem => "EquipmentSystem"
  | .brand => "Brand"
  | .technology => "Technology"

def ClassificationKind.ofJson? (w : Written) : Option ClassificationKind :=
  w.unitVariant?.bind fun name => [ClassificationKind.equipmentSystem, .brand, .technology].find? (·.name == name)

def Classification.ofJson? (w : Written) : Option Classification := do
  let fields ← w.fields? ["kind", "code"]
  let kind ← fields.required "kind" ClassificationKind.ofJson?
  let code ← fields.required "code" Written.string?
  return ⟨kind, code⟩

def Classification.toJson (c : Classification) : Value :=
  .record [("kind", .string c.kind.name), ("code", .string c.code)]

def Equipment.ofJson? (w : Written) : Option Equipment := do
  let fields ← w.fields? ["wkeid", "materialNumber", "classifications"]
  let wkeid ← fields.required "wkeid" Written.string?
  let materialNumber ← fields.required "materialNumber" Written.string?
  let classifications ← fields.withDefault "classifications" [] (Written.list? Classification.ofJson?)
  return { wkeid, materialNumber, classifications }

def Equipment.toJson (e : Equipment) : Value :=
  .record [("wkeid", .string e.wkeid), ("materialNumber", .string e.materialNumber),
    ("classifications", .array (e.classifications.map Classification.toJson))]

def Hierarchy.Node.ofJson? (w : Written) : Option Hierarchy.Node := do
  let fields ← w.fields? ["wkId", "name", "children"]
  let code ← fields.required "wkId" Written.string?
  let name ← fields.required "name" Written.string?
  let children ← fields.withDefault "children" [] (Written.list? Written.string?)
  return { code, name, children }

def Hierarchy.Node.toJson (n : Hierarchy.Node) : Value :=
  .record [("wkId", .string n.code), ("name", .string n.name), ("children", .ofStrings n.children)]

end Telemetry
