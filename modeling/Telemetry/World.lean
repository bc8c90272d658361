import Telemetry.Cache
import Telemetry.Program
/-
The world a program runs in: what its calls read and change.

`World.answer` performs one call. Calls on collaborators are logged, and may be made to fail by the calls logged before them
(`Faults`); the stores change only by calls that do not fail. `Program.run` performs a program's calls one after another, so
that running a composition is running its parts (`run_bind`).
-/
namespace Telemetry

/-- failures of collaborators, by the calls before and the call itself -/
structure Faults where
  repository : List Call → Call → Option RepositoryError := fun _ _ => none
  hierarchy : List Call → Call → Option HierarchyError := fun _ _ => none
  historian : List Call → Call → Option HistorianError := fun _ _ => none

/-- what the historian answers to queries -/
structure Historian.Answers where
  rows : Query.Statement → List Historian.Row := fun _ => []
  series : Query.Statement → List Historian.Series := fun _ => []
  latest : Query.Statement → Option Time.Instant := fun _ => none

/-- points accepted by the historian -/
structure Write where
  path : Storage.Path
  wkeid : String
  points : List Point
  deriving DecidableEq, Repr

/-- everything around the service -/
structure World where
  definitions : Channel.Store := []
  mappings : Storage.Store := []
  channelCache : ReadCache Channel.Definition := .absent
  mappingCache : ReadCache Storage.Mapping := .absent
  /-- hierarchy nodes; of two with one code the first counts -/
  nodes : List Hierarchy.Node := []
  /-- equipment records by the id they are asked for; of two the first counts -/
  directory : List (String × Equipment) := []
  historian : Historian.Answers := {}
  faults : Faults := {}
  /-- the ids still to be given out, and how many have been -/
  ids : Nat → Uuid := Uuid.ofNat
  idsTaken : Nat := 0
  /-- calls made on collaborators, in order -/
  calls : List Call := []
  /-- points accepted by the historian, in order -/
  writes : List Write := []

namespace World

/-- logs a call on a store and performs it unless the store fails -/
def onRepository {α : Type} (w : World) (c : Call) (act : World → Except RepositoryError α × World) :
    Except RepositoryError α × World :=
  let logged := { w with calls := w.calls ++ [c] }
  match w.faults.repository w.calls c with
  | some e => (.error e, logged)
  | none => act logged

/-- logs a call on the hierarchy or the directory and answers it unless that fails -/
def onHierarchy {α : Type} (w : World) (c : Call) (answer : Except HierarchyError α) : Except HierarchyError α × World :=
  let logged := { w with calls := w.calls ++ [c] }
  match w.faults.hierarchy w.calls c with
  | some e => (.error e, logged)
  | none => (answer, logged)

/-- logs a call on the historian and performs it unless that fails -/
def onHistorian {α : Type} (w : World) (c : Call) (act : World → α × World) : Except HistorianError α × World :=
  let logged := { w with calls := w.calls ++ [c] }
  match w.faults.historian w.calls c with
  | some e => (.error e, logged)
  | none => let (a, w) := act logged; (.ok a, w)

def upsertChannel (d : Channel.Definition) (w : World) : Except RepositoryError Channel.Definition × World :=
  match w.definitions.upsert d with
  | .ok definitions => (.ok d, { w with definitions })
  | .error e => (.error e, w)

def deleteChannels (filter : Channel.Filter) (w : World) : Except RepositoryError Nat × World :=
  let definitions := w.definitions.delete filter
  (.ok (w.definitions.length - definitions.length), { w with definitions })

/-- provisions a mapping, taking an id if it is new -/
def provision (c : Storage.Candidate) (w : World) : Except RepositoryError Storage.ProvisionOutcome × World :=
  let (outcome, mappings) := w.mappings.provision (w.ids w.idsTaken) c
  (.ok outcome, { w with mappings, idsTaken := if outcome.created then w.idsTaken + 1 else w.idsTaken })

def node (w : World) (code : String) : Except HierarchyError Hierarchy.Node :=
  match w.nodes.find? fun n => n.code == code with
  | some n => .ok n
  | none => .error (.notFound code)

def answer (w : World) : (c : Call) → c.Answer × World
  | .channelGet filter => w.onRepository (.channelGet filter) fun w => (.ok (w.definitions.get? filter), w)
  | .channelSelect filter => w.onRepository (.channelSelect filter) fun w => (.ok (w.definitions.select filter), w)
  | .channelUpsert d => w.onRepository (.channelUpsert d) (upsertChannel d)
  | .channelDelete filter => w.onRepository (.channelDelete filter) (deleteChannels filter)
  | .mappingGet filter => w.onRepository (.mappingGet filter) fun w => (.ok (w.mappings.get? filter), w)
  | .mappingSelect filter => w.onRepository (.mappingSelect filter) fun w => (.ok (w.mappings.select filter), w)
  | .mappingUpsert m => w.onRepository (.mappingUpsert m) fun w => (.ok m, { w with mappings := w.mappings.upsert m })
  | .mappingProvision c => w.onRepository (.mappingProvision c) (provision c)
  | .hierarchyNode code => w.onHierarchy (.hierarchyNode code) (w.node code)
  | .equipmentRecord wkeid => w.onHierarchy (.equipmentRecord wkeid) (.ok (w.directory.lookup wkeid))
  | .historianRows q => w.onHistorian (.historianRows q) fun w => (w.historian.rows q, w)
  | .historianSeries q => w.onHistorian (.historianSeries q) fun w => (w.historian.series q, w)
  | .historianLatest q => w.onHistorian (.historianLatest q) fun w => (w.historian.latest q, w)
  | .historianWrite path wkeid points =>
    w.onHistorian (.historianWrite path wkeid points) fun w => ((), { w with writes := w.writes ++ [⟨path, wkeid, points⟩] })
  | .channelCacheGet code => let (found, channelCache) := w.channelCache.get code; (found, { w with channelCache })
  | .channelCacheSet code d => ((), { w with channelCache := w.channelCache.set code d })
  | .channelCacheDrop code => ((), { w with channelCache := w.channelCache.invalidate code })
  | .mappingCacheGet code => let (found, mappingCache) := w.mappingCache.get code; (found, { w with mappingCache })
  | .mappingCacheSet code m => ((), { w with mappingCache := w.mappingCache.set code m })
  | .mappingCacheDrop code => ((), { w with mappingCache := w.mappingCache.invalidate code })
  | .freshId => (w.ids w.idsTaken, { w with idsTaken := w.idsTaken + 1 })

end World

/-- performs a program's calls one after another -/
def Program.run {ε α : Type} (p : Program ε α) (w : World) : Except ε α × World :=
  p.perform World.answer w

theorem Program.run_bind {ε α β : Type} (p : Program ε α) (f : α → Program ε β) (w : World) :
    (p.bind f).run w =
      match p.run w with
      | (.ok a, w) => (f a).run w
      | (.error e, w) => (.error e, w) := by
  simp only [run]
  rw [perform_bind]
  rcases p.perform World.answer w with ⟨e | a, w'⟩ <;> rfl

end Telemetry
