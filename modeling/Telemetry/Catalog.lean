import Telemetry.Collaborator
/-
The channel catalog: definitions by code, with a read cache in front of the store.

Definitions are checked before they are stored, and every equipment code they name must be known to the hierarchy. Whatever
changes a definition drops the cached one of its code. A cached read fills the cache with what the store holds.
-/
namespace Telemetry.Catalog

open Channel Text

/-- whether a read may be answered from the cache -/
inductive Mode where
  | cached | bypass
  deriving DecidableEq, Repr

/-- code, dimension and unit are not blank -/
def checkDefinition (d : Definition) : Except ServiceError Unit :=
  if isBlankText d.code then .error .emptyChannelCode
  else if isBlankText d.dimension then .error (.missingChannelField d.code "dimension")
  else if isBlankText d.unit then .error (.missingChannelField d.code "unit")
  else .ok ()

/-- every code is known to the hierarchy; they are asked for one after another -/
def checkEquipmentCodes : List String → Action Unit
  | [] => pure ()
  | code :: codes => do
    let _ ← Hierarchy.resolve code
    checkEquipmentCodes codes

def get (code : String) : Mode → Action (Option Definition)
  | .bypass => Channel.find (.code code)
  | .cached => do
    match ← cached code with
    | some d => return some d
    | none =>
      match ← Channel.find (.code code) with
      | some d =>
        cache code d
        return some d
      | none => return none

/-- the definition under a code, which must exist -/
def require (code : String) (mode : Mode) : Action Definition := do
  let found ← get code mode
  .orFail (.channelNotFound code) found

/-- adds a definition under a new id -/
def create (d : Definition) : Action Definition := do
  if let some id := d.id then .fail (.idAlreadyAssigned d.code id)
  .ofExcept (checkDefinition d)
  checkEquipmentCodes d.equipmentCodes
  let existing ← Channel.find (.code d.code)
  if existing.isSome then .fail (.duplicateChannelCode d.code)
  let id ← Uuid.fresh
  let stored ← Channel.upsert { d with id := some id }
  evict stored.code
  return stored

/-- replaces the definition under a code and keeps its id -/
def update (d : Definition) : Action Definition := do
  .ofExcept (checkDefinition d)
  checkEquipmentCodes d.equipmentCodes
  let existing ← require d.code .bypass
  let stored ← Channel.upsert { d with id := existing.id }
  evict stored.code
  return stored

def delete (code : String) : Action Unit := do
  let count ← Channel.delete (.code code)
  evict code
  if count = 0 then .fail (.channelNotFound code)

/-- the name of a channel's field -/
def fieldName (code : String) : Action String := do
  let d ← require code .cached
  .ofExcept d.fieldName

/-- code and unit of the first of some field names whose code is known -/
def describeKnown : List String → Action (Option Description)
  | [] => return none
  | name :: names => do
    match ← get (decodeFieldName name).code .cached with
    | some d => return some d.description
    | none => describeKnown names

/-- code and unit of the channel behind a column: of the column itself, else of the field inside its alias, else as the
name says -/
def describe (column : String) : Action Description := do
  let field := withoutAggregation column
  match ← describeKnown (column :: field.toList) with
  | some d => return d
  | none => return decodeFieldName (field.getD column)

def list : Action (List Definition) := Channel.select .all

def forEquipment (equipmentCode : String) : Action (List Definition) := Channel.select (.equipmentCode equipmentCode)

/-- the definitions under some codes, which must all exist -/
def requireAll (mode : Mode) : List String → Action (List Definition)
  | [] => return []
  | code :: codes => do
    let d ← require code mode
    let ds ← requireAll mode codes
    return d :: ds

/-! ## Reassignment -/

/-- what a reassignment changed -/
structure Reassignment where
  equipmentCode : String
  added : List String
  removed : List String
  deriving DecidableEq, Repr

/-- takes an equipment code off definitions and tells their codes -/
def withdraw (equipmentCode : String) : List Definition → Action (List String)
  | [] => return []
  | d :: ds => do
    let _ ← Channel.upsert { d with equipmentCodes := d.equipmentCodes.filter (· != equipmentCode) }
    evict d.code
    let codes ← withdraw equipmentCode ds
    return d.code :: codes

/-- adds an equipment code to definitions and tells their codes -/
def assign (equipmentCode : String) : List Definition → Action (List String)
  | [] => return []
  | d :: ds => do
    let _ ← Channel.upsert { d with equipmentCodes := d.equipmentCodes ++ [equipmentCode] }
    evict d.code
    let codes ← assign equipmentCode ds
    return d.code :: codes

/-- makes some channels the only ones that name an equipment code -/
def reassign (equipmentCode : String) (desired : List String) : Action Reassignment := do
  checkEquipmentCodes [equipmentCode]
  let desired := desired.eraseDups
  let wanted ← requireAll .bypass desired
  let current ← forEquipment equipmentCode
  let currentCodes := current.map (·.code)
  let removed ← withdraw equipmentCode (current.filter fun d => !desired.contains d.code)
  let added ← assign equipmentCode (wanted.filter fun d => !currentCodes.contains d.code)
  return ⟨equipmentCode, added, removed⟩

end Telemetry.Catalog
