import Telemetry.Collections
import Telemetry.Storage.Mapping
/-
Stored mappings, a list in the order they were first stored.

`upsert` replaces the mapping with the same id or appends. `provision` looks for the candidate's measurement: a mapping of it
gains the candidate's equipment code and keeps its status, and if there is none a disabled one is appended.
-/
namespace Telemetry.Storage

/-- which mappings are meant -/
inductive Filter where
  | equipmentCode (code : String)
  | measurement (database measurement : String)
  | all
  deriving DecidableEq, Repr

def Filter.accepts : Filter → Mapping → Bool
  | .equipmentCode wanted, m => m.covers wanted
  | .measurement database name, m => m.database == database && m.measurement == name
  | .all, _ => true

/-- the mapping with an equipment code added at the end, if it does not cover the code -/
def Mapping.join (m : Mapping) (equipmentCode : String) : Mapping :=
  if m.covers equipmentCode then m else { m with equipmentCodes := m.equipmentCodes ++ [equipmentCode] }

abbrev Store := List Mapping

namespace Store

def get? (s : Store) (filter : Filter) : Option Mapping :=
  s.find? filter.accepts

/-- all mappings meant, in order -/
def select (s : Store) (filter : Filter) : List Mapping :=
  s.filter filter.accepts

def upsert (s : Store) (m : Mapping) : Store :=
  putRecord (fun old => old.id == m.id) m s

/-- makes a mapping of the candidate's measurement cover its code; a new mapping gets the id -/
def provision (id : Uuid) (c : Candidate) : Store → ProvisionOutcome × Store
  | [] => (⟨c.toMapping id, true⟩, [c.toMapping id])
  | m :: rest =>
    if c.matchesMapping m then (⟨m.join c.equipmentCode, false⟩, m.join c.equipmentCode :: rest)
    else
      let (outcome, rest) := provision id c rest
      (outcome, m :: rest)

end Store

end Telemetry.Storage
