import Telemetry.Catalog
import Telemetry.Failure
import Telemetry.Toml.Document
import Telemetry.Toml.Value
import Telemetry.World
/-
Seed files: hierarchy nodes and channel definitions in TOML, and loading them into a catalog.

Channels are loaded in the order of the file, each created if its code is not defined yet and updated if it is. The nodes of
the file are the hierarchy that equipment codes are checked against; of two nodes with one code the later counts. A channel
that is refused ends the loading and leaves the channels before it stored.
-/
namespace Telemetry.Catalog

open Toml

/-- what a seed file holds -/
structure Seed where
  nodes : List Hierarchy.Node := []
  /-- definitions without ids -/
  channels : List Channel.Definition := []
  deriving DecidableEq, Repr

namespace Seed

def node? (v : Value) : Option Hierarchy.Node := do
  let fields ← v.fields? ["wk_id", "name"]
  let code ← fields.required "wk_id" Value.string?
  let name ← fields.required "name" Value.string?
  return { code, name }

def channel? (v : Value) : Option Channel.Definition := do
  let fields ← v.fields? ["code", "dimension", "unit", "display_name", "legal_classification", "equipment_codes"]
  let code ← fields.required "code" Value.string?
  let dimension ← fields.required "dimension" Value.string?
  let unit ← fields.required "unit" Value.string?
  let displayName ← fields.optional "display_name" Value.string?
  let legalClassification ← fields.optional "legal_classification" Value.string?
  let equipmentCodes ← fields.withDefault "equipment_codes" [] (Value.list? Value.string?)
  return { code, dimension, unit, displayName, legalClassification, equipmentCodes }

def ofEntries? (entries : List (String × Value)) : Option Seed := do
  let fields : Fields := ⟨false, entries⟩
  let nodes ← fields.withDefault "node" [] (Value.list? node?)
  let channels ← fields.withDefault "channel" [] (Value.list? channel?)
  return { nodes, channels }

def ofToml (content : String) : Except Failure Seed :=
  match (Toml.read content).bind ofEntries? with
  | some seed => .ok seed
  | none => .error { cause := .malformedSeed, contexts := ["failed to parse catalog seed file"] }

end Seed

/-- what loading a channel did -/
inductive SeedAction where
  | created | updated
  deriving DecidableEq, Repr

def SeedAction.name : SeedAction → String
  | .created => "created"
  | .updated => "updated"

/-- a loaded channel -/
structure SeedOutcome where
  definition : Channel.Definition
  action : SeedAction
  deriving DecidableEq, Repr

/-- creates a channel, or updates it if its code is defined -/
def loadChannel (d : Channel.Definition) : Program Failure SeedOutcome := do
  let existing ← (get d.code .bypass).mapError .ofService
  let context := s!"failed to seed channel '{d.code}'"
  if existing.isSome then
    let stored ← (update d).mapError fun e => (Failure.ofService e).during context
    return ⟨stored, .updated⟩
  else
    let stored ← (create d).mapError fun e => (Failure.ofService e).during context
    return ⟨stored, .created⟩

/-- loads channels one after another -/
def load : List Channel.Definition → Program Failure (List SeedOutcome)
  | [] => return []
  | d :: ds => do
    let outcome ← loadChannel d
    let outcomes ← load ds
    return outcome :: outcomes

namespace Seed

/-- a world that holds the seed's hierarchy beside given definitions, and reads nothing from a cache -/
def world (seed : Seed) (definitions : Channel.Store) : World :=
  { definitions, nodes := seed.nodes.reverse }

end Seed

end Telemetry.Catalog
