import Telemetry.Proofs.Program.Calls
import Telemetry.World
/-
Surroundings of programs: collaborators of any behaviour, seen through what they store.

A `Surroundings` answers calls as it likes, with any state of its own: each answer may depend on everything that happened
before, may be a failure, and need not agree with earlier answers. Of its state only the stored mappings and the accepted
writes are seen, and only this is known of them: the mappings change by calls that store or provision a mapping alone, and
the writes by accepted writes alone. In a `MappingSurroundings` the mappings are, besides, a store in memory whose calls
either fail and change nothing or do what `Storage.Store` says; the next id is whatever the state makes it.

A `World` is one of them (`World.surroundings`), and performing a program there is running it (`perform_surroundings`).

- `Surroundings.mappings_perform`, `Surroundings.writes_perform`: programs that make no call of a kind change nothing of it;
- `Surroundings.attempted`: the writes that a program asks for, accepted or not.
-/
namespace Telemetry

/-- what is stored outside the caches -/
inductive Part where
  | definitions | mappings | writes
  deriving DecidableEq, Repr

namespace Call

/-- the part that a call may change -/
def changes : Call → Option Part
  | .channelUpsert _ | .channelDelete _ => some .definitions
  | .mappingUpsert _ | .mappingProvision _ => some .mappings
  | .historianWrite .. => some .writes
  | _ => none

/-- a call that changes no part -/
def Quiet (c : Call) : Prop := c.changes = none

/-- the points a call asks the historian to store -/
def write? : Call → Option Write
  | .historianWrite path wkeid points => some ⟨path, wkeid, points⟩
  | _ => none

theorem write?_eq_none {c : Call} (h : c.changes ≠ some .writes) : c.write? = none := by
  cases c <;> first | rfl | exact absurd rfl h

end Call

/-- collaborators of any behaviour, with the mappings and the accepted writes that are in their state -/
structure Surroundings where
  State : Type
  answer : State → (c : Call) → c.Answer × State
  mappings : State → Storage.Store
  writes : State → List Write
  mappings_kept : ∀ s c, c.changes ≠ some .mappings → mappings (answer s c).2 = mappings s
  writes_kept : ∀ s c, c.changes ≠ some .writes → writes (answer s c).2 = writes s
  writes_accepted : ∀ {s s' path wkeid points}, answer s (.historianWrite path wkeid points) = (.ok (), s') →
    writes s' = writes s ++ [⟨path, wkeid, points⟩]
  writes_refused : ∀ {s s' path wkeid points e}, answer s (.historianWrite path wkeid points) = (.error e, s') →
    writes s' = writes s

/-- surroundings whose mappings are a store in memory -/
structure MappingSurroundings extends Surroundings where
  /-- the id that a mapping provisioned next would get -/
  nextId : State → Uuid
  mapping_found : ∀ {s s' filter found}, answer s (.mappingGet filter) = (.ok found, s') →
    found = (mappings s).get? filter
  mapping_stored : ∀ {s s' m stored}, answer s (.mappingUpsert m) = (.ok stored, s') →
    stored = m ∧ mappings s' = (mappings s).upsert m
  mapping_not_stored : ∀ {s s' m e}, answer s (.mappingUpsert m) = (.error e, s') → mappings s' = mappings s
  mapping_provisioned : ∀ {s s' c outcome}, answer s (.mappingProvision c) = (.ok outcome, s') →
    (mappings s).provision (nextId s) c = (outcome, mappings s')
  mapping_not_provisioned : ∀ {s s' c e}, answer s (.mappingProvision c) = (.error e, s') → mappings s' = mappings s

namespace Surroundings

variable (S : Surroundings) {ε α β : Type}

/-! ## What programs leave unchanged -/

theorem mappings_perform {p : Program ε α} (hp : p.Only fun c => c.changes ≠ some .mappings) (s : S.State) :
    S.mappings (p.perform S.answer s).2 = S.mappings s :=
  Program.perform_invariant (I := fun t => S.mappings t = S.mappings s)
    (fun t c hc ht => (S.mappings_kept t c hc).trans ht) hp rfl

theorem writes_perform {p : Program ε α} (hp : p.Only fun c => c.changes ≠ some .writes) (s : S.State) :
    S.writes (p.perform S.answer s).2 = S.writes s :=
  Program.perform_invariant (I := fun t => S.writes t = S.writes s)
    (fun t c hc ht => (S.writes_kept t c hc).trans ht) hp rfl

/-! ## Attempted writes -/

/-- the writes that a program asks for, in order -/
def attempted (p : Program ε α) (s : S.State) : List Write :=
  (p.moments S.answer s).filterMap fun m => m.call.write?

theorem attempted_eq_nil {p : Program ε α} (hp : p.Only fun c => c.changes ≠ some .writes) (s : S.State) :
    S.attempted p s = [] := by
  apply List.filterMap_eq_nil_iff.2
  intro m hm
  exact Call.write?_eq_none (Program.call_of_mem_moments hp hm)

theorem attempted_bind_ok {p : Program ε α} {f : α → Program ε β} {s s1 : S.State} {a : α}
    (h : p.perform S.answer s = (.ok a, s1)) :
    S.attempted (p >>= f) s = S.attempted p s ++ S.attempted (f a) s1 := by
  unfold attempted
  rw [Program.moments_bind_of_ok h, List.filterMap_append]

theorem attempted_bind_error {p : Program ε α} {f : α → Program ε β} {s s1 : S.State} {e : ε}
    (h : p.perform S.answer s = (.error e, s1)) : S.attempted (p >>= f) s = S.attempted p s := by
  unfold attempted
  rw [Program.moments_bind_of_error h]

theorem attempted_bind_pure (p : Program ε α) (f : α → β) (s : S.State) :
    S.attempted (p >>= fun a => pure (f a)) s = S.attempted p s := by
  rcases h : p.perform S.answer s with ⟨e | a, s1⟩
  · exact S.attempted_bind_error h
  · rw [S.attempted_bind_ok h, S.attempted_eq_nil (Program.only_pure _), List.append_nil]

end Surroundings

/-! ## The world -/

namespace World

theorem definitions_answer (w : World) (c : Call) (hc : c.changes ≠ some .definitions) :
    (w.answer c).2.definitions = w.definitions := by
  cases c with
  | channelUpsert d => exact absurd rfl hc
  | channelDelete filter => exact absurd rfl hc
  | _ =>
    simp only [answer, onRepository, onHierarchy, onHistorian, provision]
    repeat' split
    all_goals rfl

theorem mappings_answer (w : World) (c : Call) (hc : c.changes ≠ some .mappings) :
    (w.answer c).2.mappings = w.mappings := by
  cases c with
  | mappingUpsert m => exact absurd rfl hc
  | mappingProvision candidate => exact absurd rfl hc
  | _ =>
    simp only [answer, onRepository, onHierarchy, onHistorian, upsertChannel, deleteChannels]
    repeat' split
    all_goals rfl

theorem writes_answer (w : World) (c : Call) (hc : c.changes ≠ some .writes) : (w.answer c).2.writes = w.writes := by
  cases c with
  | historianWrite path wkeid points => exact absurd rfl hc
  | _ =>
    simp only [answer, onRepository, onHierarchy, onHistorian, upsertChannel, deleteChannels, provision]
    repeat' split
    all_goals rfl

def surroundings : MappingSurroundings where
  State := World
  answer := World.answer
  mappings := World.mappings
  writes := World.writes
  mappings_kept := mappings_answer
  writes_kept := writes_answer
  writes_accepted := by
    intro w w' path wkeid points h
    simp only [answer, onHistorian] at h
    split at h
    · cases h
    · cases h; rfl
  writes_refused := by
    intro w w' path wkeid points e h
    simp only [answer, onHistorian] at h
    split at h
    · cases h; rfl
    · cases h
  nextId w := w.ids w.idsTaken
  mapping_found := by
    intro w w' filter found h
    simp only [answer, onRepository] at h
    split at h
    · cases h
    · cases h; rfl
  mapping_stored := by
    intro w w' m stored h
    simp only [answer, onRepository] at h
    split at h
    · cases h
    · cases h; exact ⟨rfl, rfl⟩
  mapping_not_stored := by
    intro w w' m e h
    simp only [answer, onRepository] at h
    split at h
    · cases h; rfl
    · cases h
  mapping_provisioned := by
    intro w w' c outcome h
    simp only [answer, onRepository, provision] at h
    split at h
    · cases h
    · cases h; rfl
  mapping_not_provisioned := by
    intro w w' c e h
    simp only [answer, onRepository, provision] at h
    split at h
    · cases h; rfl
    · cases h

theorem perform_surroundings {ε α : Type} (p : Program ε α) (w : World) :
    p.perform surroundings.answer w = p.run w := rfl

end World

/-! ## A small world -/

/-- a fan, whose code is stored with that of no other equipment -/
def fan : Equipment :=
  ⟨"M0:S0", "M0", [⟨.equipmentSystem, "E0"⟩]⟩

def pump : Equipment :=
  ⟨"M1:S1", "M1", [⟨.equipmentSystem, "E1"⟩, ⟨.brand, "B1"⟩, ⟨.technology, "T1"⟩]⟩

def fanMapping : Storage.Mapping := ⟨.ofNat 7, "FAN", "ACME", ["E0"], .enabled, "B1", "T0", "acme", "fan"⟩

def pumpMapping : Storage.Mapping := ⟨.ofNat 0, "PUMP", "ACME", ["E1"], .disabled, "B1", "T1", "acme", "pump"⟩

/-- a world with a fan and a pump, where the fan alone has a mapping -/
def plant : World :=
  { definitions :=
      [{ code := "time", dimension := "time", unit := "s" }, { code := "load", dimension := "power", unit := "kW" }]
    mappings := [fanMapping]
    nodes := [⟨"B1", "acme", []⟩, ⟨"T1", "pump", []⟩]
    directory := [("M0:S0", fan), ("M1:S1", pump)] }

/-- the plant once the pump's mapping is enabled -/
def enabledPlant : World := { plant with mappings := [fanMapping, { pumpMapping with status := .enabled }] }

end Telemetry
