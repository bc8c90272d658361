import Telemetry.Program
/-
Calls as the service makes them: each answers with its result or fails the way a caller is told.
-/
namespace Telemetry

/-- a computation of the service -/
abbrev Action (α : Type) := Program ServiceError α

/-- the answer of a store, its failure told as a repository failure -/
def repositoryAnswer {α : Type} : Except RepositoryError α → Action α
  | .ok a => .done a
  | .error e => .fail (.repository e)

def hierarchyAnswer {α : Type} : Except HierarchyError α → Action α
  | .ok a => .done a
  | .error e => .fail (.ofHierarchy e)

def historianAnswer {α : Type} : Except HistorianError α → Action α
  | .ok a => .done a
  | .error e => .fail (.historian e)

namespace Channel

/-- the first stored definition meant -/
def find (filter : Filter) : Action (Option Definition) := .step (.channelGet filter) repositoryAnswer

/-- all stored definitions meant -/
def select (filter : Filter) : Action (List Definition) := .step (.channelSelect filter) repositoryAnswer

def upsert (d : Definition) : Action Definition := .step (.channelUpsert d) repositoryAnswer

/-- removes definitions and tells how many -/
def delete (filter : Filter) : Action Nat := .step (.channelDelete filter) repositoryAnswer

def cached (code : String) : Action (Option Definition) := .step (.channelCacheGet code) .done

def cache (code : String) (d : Definition) : Action Unit := .step (.channelCacheSet code d) .done

def evict (code : String) : Action Unit := .step (.channelCacheDrop code) .done

end Channel

namespace Storage

/-- the first stored mapping meant -/
def find (filter : Filter) : Action (Option Mapping) := .step (.mappingGet filter) repositoryAnswer

/-- all stored mappings meant -/
def select (filter : Filter) : Action (List Mapping) := .step (.mappingSelect filter) repositoryAnswer

def upsert (m : Mapping) : Action Mapping := .step (.mappingUpsert m) repositoryAnswer

/-- provisions a mapping, a failure told as one of provisioning -/
def provision (c : Candidate) : Action ProvisionOutcome :=
  .step (.mappingProvision c) fun (answer : Except RepositoryError ProvisionOutcome) =>
    match answer with
    | .ok outcome => .done outcome
    | .error e => .fail (.provisioningFailed c.equipmentCode e.message)

/-- provisions a mapping, a failure told as one of the store -/
def provisionPlainly (c : Candidate) : Action ProvisionOutcome := .step (.mappingProvision c) repositoryAnswer

def cached (equipmentCode : String) : Action (Option Mapping) := .step (.mappingCacheGet equipmentCode) .done

def cache (equipmentCode : String) (m : Mapping) : Action Unit := .step (.mappingCacheSet equipmentCode m) .done

def evict (equipmentCode : String) : Action Unit := .step (.mappingCacheDrop equipmentCode) .done

end Storage

namespace Hierarchy

def resolve (code : String) : Action Node := .step (.hierarchyNode code) hierarchyAnswer

end Hierarchy

def Equipment.find (wkeid : String) : Action (Option Equipment) := .step (.equipmentRecord wkeid) hierarchyAnswer

namespace Historian

def rows (q : Query.Statement) : Action (List Row) := .step (.historianRows q) historianAnswer

def series (q : Query.Statement) : Action (List Series) := .step (.historianSeries q) historianAnswer

def latest (q : Query.Statement) : Action (Option Time.Instant) := .step (.historianLatest q) historianAnswer

def write (path : Storage.Path) (wkeid : String) (points : List Point) : Action Unit :=
  .step (.historianWrite path wkeid points) historianAnswer

end Historian

/-- an id that has not been given out before -/
def Uuid.fresh : Action Uuid := .step .freshId .done

end Telemetry
