import Telemetry.Json.Typed
/-
Payloads as sent: channels declared once, then rows of any JSON values, for one equipment or for several.

The readers take JSON text. Rows are values inside the payload, so the nesting allowed in them is what the payload leaves of
the limit.
-/
namespace Telemetry.Payload

open Json

/-- a channel as declared -/
structure WireChannel where
  index : Option Int := none
  code : String
  uom : String := ""
  dimension : String := ""
  deriving DecidableEq, Repr

/-- a payload for one equipment -/
structure Single where
  channels : List WireChannel
  rows : List Value

/-- the rows of one equipment in a payload for several -/
structure Group where
  equipmentId : String
  rows : List Value

/-- a payload for several equipments -/
structure Bulk where
  channels : List WireChannel
  groups : List Group

def WireChannel.ofJson? (w : Written) : Option WireChannel := do
  let fields ← w.fields? ["index", "code", "uom", "dimension"]
  let index ← fields.withDefault "index" none (Written.nullable? Written.int64?)
  let code ← fields.required "code" Written.string?
  let uom ← fields.withDefault "uom" "" Written.string?
  let dimension ← fields.withDefault "dimension" "" Written.string?
  return ⟨index, code, uom, dimension⟩

/-- reads the declared channels of a payload's meta block -/
def channelsOfMeta? (w : Written) : Option (List WireChannel) := do
  let fields ← w.fields? ["channels"]
  fields.withDefault "channels" [] (Written.list? WireChannel.ofJson?)

/-- reads a list of values inside `outer` other arrays and objects -/
def rowsOfJson? (outer : Nat) : Written → Option (List Value) :=
  Written.list? (Written.toValue? (depthLimit - outer - 1))

def Single.ofJson? (w : Written) : Option Single := do
  let fields ← w.fields? ["meta", "rows"]
  let channels ← fields.required "meta" channelsOfMeta?
  let rows ← fields.withDefault "rows" [] (rowsOfJson? 1)
  return ⟨channels, rows⟩

def Group.ofJson? (w : Written) : Option Group := do
  let fields ← w.fields? ["equipmentId", "rows"]
  let equipmentId ← fields.required "equipmentId" Written.string?
  let rows ← fields.withDefault "rows" [] (rowsOfJson? 3)
  return ⟨equipmentId, rows⟩

/-- reads a payload for several equipments -/
def Bulk.ofJson? (w : Written) : Option Bulk := do
  let fields ← w.fields? ["meta", "equipments"]
  let channels ← fields.required "meta" channelsOfMeta?
  let groups ← fields.withDefault "equipments" [] (Written.list? Group.ofJson?)
  return ⟨channels, groups⟩

end Telemetry.Payload
