import Telemetry.Collaborator
import Telemetry.Storage.Mapping
/-
Routing: from a piece of equipment to the path of its rows.

The mapping that covers the equipment's code decides. Reads may take it from the cache; writes ask the store, and are refused
through a disabled mapping. A code that no mapping covers is routed by the names of the equipment's brand and technology: a
read takes that path as it is, a write provisions a mapping for it. An equipment without a code, or without brand or
technology where they are needed, has no path.
-/
namespace Telemetry.Storage

/-- what a path is asked for -/
inductive Purpose where
  | read | write
  deriving DecidableEq, Repr

/-- the mapping that covers an equipment code; what the store answers is cached -/
def lookUp (equipmentCode : String) (purpose : Purpose) : Action (Option Mapping) := do
  let hit ← if purpose = .read then cached equipmentCode else pure none
  match hit with
  | some m => return some m
  | none =>
    match ← find (.equipmentCode equipmentCode) with
    | some m =>
      cache equipmentCode m
      return some m
    | none => return none

def suggest (e : Equipment) (equipmentCode : String) : Action (Option Candidate) :=
  match e.brandCode, e.technologyCode with
  | some brandCode, some technologyCode => do
    let brand ← Hierarchy.resolve brandCode
    let technology ← Hierarchy.resolve technologyCode
    return some
      { database := storageName technology.name, measurement := storageName brand.name, equipmentCode, brandCode,
        technologyCode, brandName := brand.name, technologyName := technology.name }
  | _, _ => return none

/-- refuses a disabled mapping and says whom to ask -/
def checkEnabled (supportContact : String) (e : Equipment) (equipmentCode : String) (m : Mapping) :
    Except ServiceError Unit :=
  if m.isEnabled then .ok () else .error (.inactiveMapping e.wkeid equipmentCode supportContact)

def route (supportContact : String) (e : Equipment) (purpose : Purpose) : Action (Option Path) :=
  match e.equipmentCode with
  | none => return none
  | some equipmentCode => do
    match ← lookUp equipmentCode purpose with
    | some m =>
      if purpose = .write then .ofExcept (checkEnabled supportContact e equipmentCode m)
      return some (m.pathFor equipmentCode)
    | none =>
      match ← suggest e equipmentCode with
      | none => return none
      | some candidate =>
        if purpose = .read then return some candidate.path
        let outcome ← provision candidate
        evict equipmentCode
        .ofExcept (checkEnabled supportContact e equipmentCode outcome.mapping)
        return some (outcome.mapping.pathFor equipmentCode)

def routeRead (supportContact : String) (e : Equipment) : Action (Option Path) :=
  route supportContact e .read

/-- the path to write to, which must exist -/
def routeWrite (supportContact : String) (e : Equipment) : Action Path := do
  let path ← route supportContact e .write
  .orFail (.noStoragePath e.wkeid) path

/-- drops what is cached under equipment codes -/
def evictAll : List String → Action Unit
  | [] => return ()
  | code :: codes => do
    evict code
    evictAll codes

/-- enables or disables the mapping that covers an equipment code -/
def setStatus (equipmentCode : String) (status : Status) : Action Mapping := do
  let found ← find (.equipmentCode equipmentCode)
  let m ← .orFail (.mappingNotFound equipmentCode) found
  let stored ← upsert { m with status }
  evictAll stored.equipmentCodes
  return stored

def list : Action (List Mapping) := select .all

end Telemetry.Storage
