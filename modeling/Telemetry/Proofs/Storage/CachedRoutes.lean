import Mathlib.Data.List.Nodup
import Telemetry.Proofs.Alike
import Telemetry.Proofs.Cache.Entries
import Telemetry.Proofs.Storage.Evolution
/-
Routes through the mapping cache.

A cached mapping goes stale: a code that joins its measurement later is only in the stored one. What a route is made of does
not. In a `Linked` world each cached mapping agrees, in all but its codes, with the first stored mapping that covers the code
it is cached under. A change of the store that could break this for a code drops what is cached under it.

- `linked_routeRead`, `linked_routeWrite`, `linked_setStatus`: every operation keeps a world linked;
- `routeRead_of_linked`: in a linked world a path to read from is the one found without a cache;
- `routing_cache`: so both hold at every point of a run, and a path to write to never depends on the cache.
-/
namespace Telemetry.Storage

open Program

/-! ## Linked worlds -/

/-- what two states of a mapping have in common as far as routes go -/
structure Mapping.Agrees (m n : Mapping) : Prop where
  id : n.id = m.id
  database : n.database = m.database
  measurement : n.measurement = m.measurement
  status : n.status = m.status

theorem Mapping.Agrees.refl (m : Mapping) : m.Agrees m :=
  ⟨rfl, rfl, rfl, rfl⟩

theorem Mapping.Agrees.of_extends {m n n' : Mapping} (h : m.Agrees n) (hext : n.Extends n') (hstatus : n'.status = n.status) :
    m.Agrees n' :=
  ⟨hext.id.trans h.id, hext.database.trans h.database, hext.measurement.trans h.measurement, hstatus.trans h.status⟩

theorem Mapping.Agrees.pathFor {m n : Mapping} (h : m.Agrees n) (code : String) : n.pathFor code = m.pathFor code := by
  unfold Mapping.pathFor
  rw [h.database, h.measurement]

/-- no id is stored twice, and each cached mapping agrees with the first stored one that covers the code -/
structure Linked (w : World) : Prop where
  ids : (w.mappings.map (·.id)).Nodup
  cached : ∀ code m, w.mappingCache.Holds code m → ∃ n, w.mappings.get? (.equipmentCode code) = some n ∧ m.Agrees n

/-- a call that neither changes the stored mappings nor adds to their cache -/
def KeepsLinks : Call → Prop
  | .mappingUpsert _ | .mappingProvision _ | .mappingCacheSet .. => False
  | _ => True

variable {ε α β : Type} {w : World}

theorem linked_answer (h : Linked w) {c : Call} (hc : KeepsLinks c) : Linked (w.answer c).2 := by
  cases c with
  | mappingUpsert | mappingProvision | mappingCacheSet => exact hc.elim
  | mappingCacheGet code => exact ⟨h.ids, fun key m hm => h.cached key m (ReadCache.holds_of_get hm)⟩
  | mappingCacheDrop code => exact ⟨h.ids, fun key m hm => h.cached key m (ReadCache.holds_invalidate hm).2⟩
  | channelCacheGet | channelCacheSet | channelCacheDrop | freshId => exact ⟨h.ids, h.cached⟩
  | _ =>
    simp only [World.answer, World.onRepository, World.onHierarchy, World.onHistorian, World.upsertChannel,
      World.deleteChannels]
    repeat' split
    all_goals exact ⟨h.ids, h.cached⟩

theorem linked_run {p : Program ε α} (hp : p.Only KeepsLinks) (h : Linked w) : Linked (p.run w).2 :=
  perform_invariant (I := Linked) (fun _ _ hc hw => linked_answer hw hc) hp h

theorem linked_bind {p : Program ε α} {f : α → Program ε β} (hp : Linked (p.run w).2)
    (hf : ∀ a w1, p.run w = (.ok a, w1) → Linked w1 → Linked ((f a).run w1).2) : Linked ((p >>= f).run w).2 := by
  rcases hrun : p.run w with ⟨e | a, w1⟩ <;> rw [hrun] at hp
  · rw [World.run_bind_of_error hrun]
    exact hp
  · rw [World.run_bind_of_ok hrun]
    exact hf a w1 hrun hp

/-! ## Looking up -/

/-- asks the store for the mapping of a code and caches it -/
def fetch (code : String) : Action (Option Mapping) := do
  match ← find (.equipmentCode code) with
  | some m =>
    cache code m
    return some m
  | none => return none

theorem lookUp_read_eq (code : String) :
    lookUp code .read = cached code >>= fun hit =>
      match hit with
      | some m => pure (some m)
      | none => fetch code := rfl

theorem find_run_ok {filter : Filter} {found : Option Mapping} {w1 : World} (h : (find filter).run w = (.ok found, w1)) :
    found = w1.mappings.get? filter := by
  have hquiet : (find filter).Only Call.Quiet := only_step rfl only_repositoryAnswer
  have hsame : w1.mappings = w.mappings := quiet_mappings World.surroundings hquiet h
  rw [hsame]
  exact find_ok World.surroundings h

theorem linked_fetch (h : Linked w) (code : String) : Linked ((fetch code).run w).2 := by
  refine linked_bind (linked_run (only_step trivial only_repositoryAnswer) h) fun found w1 hfind h1 => ?_
  have hfound := find_run_ok hfind
  cases found with
  | none => exact h1
  | some m =>
    refine ⟨h1.ids, fun key n hn => ?_⟩
    rcases ReadCache.holds_set hn with ⟨rfl, rfl⟩ | hheld
    · exact ⟨n, hfound.symm, Mapping.Agrees.refl n⟩
    · exact h1.cached key n hheld

theorem linked_lookUp (h : Linked w) (code : String) (purpose : Purpose) : Linked ((lookUp code purpose).run w).2 := by
  cases purpose with
  | write => exact linked_fetch h code
  | read =>
    rw [lookUp_read_eq]
    refine linked_bind (linked_run (only_step trivial fun _ => trivial) h) fun hit w1 _ h1 => ?_
    cases hit with
    | some m => exact h1
    | none => exact linked_fetch h1 code

/-! ## A path to read from -/

/-- the path to read from for a code that no mapping covers -/
def suggestedPath (e : Equipment) (code : String) : Action (Option Path) := do
  match ← suggest e code with
  | none => return none
  | some candidate => return some candidate.path

def readPath (e : Equipment) (code : String) : Option Mapping → Action (Option Path)
  | some m => return some (m.pathFor code)
  | none => suggestedPath e code

theorem routeRead_of_no_code {contact : String} {e : Equipment} (hcode : e.equipmentCode = none) :
    routeRead contact e = pure none := by
  unfold routeRead route
  rw [hcode]

theorem routeRead_of_code {contact : String} {e : Equipment} {code : String} (hcode : e.equipmentCode = some code) :
    routeRead contact e = lookUp code .read >>= readPath e code := by
  unfold routeRead route
  rw [hcode]
  refine bind_congr fun found => ?_
  cases found <;> rfl

theorem readPath_only {allowed : Call → Prop} (hallowed : ∀ code, allowed (.hierarchyNode code)) (e : Equipment)
    (code : String) (found : Option Mapping) : (readPath e code found).Only allowed := by
  cases found with
  | some m => exact only_pure _
  | none =>
    refine only_bind (suggest_only hallowed e code) fun suggested => ?_
    cases suggested <;> exact only_pure _

theorem enabledPath_only {allowed : Call → Prop} (contact : String) (e : Equipment) (code : String) (m : Mapping) :
    (enabledPath contact e code m).Only allowed :=
  only_bind (only_ofExcept _) fun _ => only_pure _

theorem linked_routeRead (h : Linked w) (contact : String) (e : Equipment) : Linked ((routeRead contact e).run w).2 := by
  rcases hcode : e.equipmentCode with _ | code
  · rw [routeRead_of_no_code hcode]
    exact h
  · rw [routeRead_of_code hcode]
    exact linked_bind (linked_lookUp h code .read) fun found w1 _ h1 => linked_run (readPath_only (fun _ => trivial) e code found) h1

/-! ## A path to write to -/

theorem provision_run (w : World) (candidate : Candidate) :
    (∃ e, (provision candidate).run w = (.error e, { w with calls := w.calls ++ [.mappingProvision candidate] })) ∨
      ∃ outcome idsTaken, (provision candidate).run w = (.ok outcome, { w with
        calls := w.calls ++ [.mappingProvision candidate], idsTaken
        mappings := (w.mappings.provision (w.ids w.idsTaken) candidate).2 }) := by
  rcases hfault : w.faults.repository w.calls (.mappingProvision candidate) with _ | e
  · refine Or.inr ⟨(w.mappings.provision (w.ids w.idsTaken) candidate).1, (World.provision candidate w).2.idsTaken, ?_⟩
    simp only [provision, Program.run, perform, World.answer, World.onRepository, hfault, World.provision]
  · refine Or.inl ⟨.provisioningFailed candidate.equipmentCode e.message, ?_⟩
    simp only [provision, Program.run, perform, World.answer, World.onRepository, hfault]

/-- provisioning for a code, and dropping what is cached under it -/
theorem linked_provisionedPath (h : Linked w) {contact : String} {e : Equipment} {code : String} {candidate : Candidate}
    (hcandidate : candidate.equipmentCode = code)
    (hfresh : ∀ m ∈ (provisionedPath contact e code candidate).moments World.answer w, World.surroundings.DrawsFresh m) :
    Linked ((provisionedPath contact e code candidate).run w).2 := by
  have hdraws : World.surroundings.DrawsFresh ⟨w, .mappingProvision candidate⟩ :=
    hfresh _ (mem_moments_bind_left List.mem_cons_self)
  rw [provisionedPath]
  rcases provision_run w candidate with ⟨failure, hrun⟩ | ⟨outcome, idsTaken, hrun⟩
  · rw [World.run_bind_of_error hrun]
    exact ⟨h.ids, h.cached⟩
  · rw [World.run_bind_of_ok hrun]
    refine linked_bind ?_ fun _ w1 _ h1 => linked_run (enabledPath_only contact e code outcome.mapping) h1
    refine ⟨Store.provision_ids_nodup h.ids (hdraws candidate rfl), fun key m hm => ?_⟩
    -- what is still cached is cached under another code
    obtain ⟨hne, hheld⟩ := ReadCache.holds_invalidate hm
    obtain ⟨n, hn, hagrees⟩ := h.cached key m hheld
    rw [← hcandidate] at hne
    obtain ⟨n', hn', hext, hstatus⟩ := Store.provision_get? hne hn
    exact ⟨n', hn', hagrees.of_extends hext hstatus⟩

theorem linked_routeWrite (h : Linked w) {contact : String} {e : Equipment}
    (hfresh : ∀ m ∈ (routeWrite contact e).moments World.answer w, World.surroundings.DrawsFresh m) :
    Linked ((routeWrite contact e).run w).2 := by
  rcases hcode : e.equipmentCode with _ | code
  · rw [routeWrite_of_no_code hcode]
    exact h
  rw [routeWrite_of_code hcode] at hfresh ⊢
  refine linked_bind (linked_lookUp h code .write) fun found w1 hlookUp h1 => ?_
  refine linked_bind ?_ fun path w2 _ h2 => linked_run (only_orFail _ _) h2
  cases found with
  | some m => exact linked_run (enabledPath_only contact e code m) h1
  | none =>
    refine linked_bind (linked_run (suggest_only (fun _ => trivial) e code) h1) fun suggested w2 hsuggest h2 => ?_
    cases suggested with
    | none => exact h2
    | some candidate =>
      refine linked_provisionedPath h2 (suggest_ok World.surroundings hsuggest) fun m hm => hfresh m ?_
      exact mem_moments_bind_right hlookUp (mem_moments_bind_left (mem_moments_bind_right hsuggest hm))

/-! ## Setting a status -/

theorem evictAll_run (codes : List String) (w : World) :
    (evictAll codes).run w = (.ok (), { w with mappingCache := codes.foldl ReadCache.invalidate w.mappingCache }) := by
  induction codes generalizing w with
  | nil => rfl
  | cons code codes ih => exact ih _

/-- the first mapping that covers a code is stored with a status, and what is cached under its codes is dropped -/
theorem linked_storeStatus (h : Linked w) {code : String} {m : Mapping} (status : Status)
    (hm : w.mappings.get? (.equipmentCode code) = some m) :
    Linked ((upsert { m with status } >>= fun stored => evictAll stored.equipmentCodes >>= fun _ =>
      (pure stored : Action Mapping)).run w).2 := by
  obtain ⟨s1, s2, hsplit⟩ := List.append_of_mem (Store.get?_equipmentCode_eq_some hm).1
  have hids := h.ids
  rw [hsplit] at hids
  rcases hfault : w.faults.repository w.calls (.mappingUpsert { m with status }) with _ | e
  · have hrun : (upsert { m with status }).run w = (.ok { m with status }, { w with
        calls := w.calls ++ [.mappingUpsert { m with status }], mappings := s1 ++ { m with status } :: s2 }) := by
      have hput : w.mappings.upsert { m with status } = s1 ++ { m with status } :: s2 := by
        rw [hsplit]
        exact Store.upsert_of_mem rfl (Store.id_ne_of_nodup hids)
      simp only [upsert, Program.run, perform, World.answer, World.onRepository, hfault, hput, repositoryAnswer]
    rw [World.run_bind_of_ok hrun, World.run_bind_pure, evictAll_run]
    refine ⟨by simpa only [List.map_append, List.map_cons] using hids, fun key cached hcached => ?_⟩
    obtain ⟨hkey, hheld⟩ := ReadCache.holds_invalidateAll hcached
    obtain ⟨n, hn, hagrees⟩ := h.cached key cached hheld
    rw [hsplit] at hn
    have hcovers : Mapping.covers { m with status } key = m.covers key := rfl
    rcases Store.get?_replace s1 s2 hcovers with hsame | ⟨hold, -⟩
    · exact ⟨n, hsame.trans hn, hagrees⟩
    · exact absurd (Store.get?_equipmentCode_eq_some hold).2 hkey
  · have hrun : (upsert { m with status }).run w = (.error (.repository e), { w with
        calls := w.calls ++ [.mappingUpsert { m with status }] }) := by
      simp only [upsert, Program.run, perform, World.answer, World.onRepository, hfault, repositoryAnswer]
    rw [World.run_bind_of_error hrun]
    exact ⟨h.ids, h.cached⟩

theorem linked_setStatus (h : Linked w) (code : String) (status : Status) : Linked ((setStatus code status).run w).2 := by
  refine linked_bind (linked_run (only_step trivial only_repositoryAnswer) h) fun found w1 hfind h1 => ?_
  have hfound := find_run_ok hfind
  cases found with
  | none => exact h1
  | some m => exact linked_storeStatus h1 status hfound.symm

/-! ## Runs -/

theorem linked_action (contact : String) (op : Operation) (h : Linked w)
    (hfresh : ∀ m ∈ (op.action contact).moments World.answer w, World.surroundings.DrawsFresh m) :
    Linked ((op.action contact).run w).2 := by
  cases op with
  | routeRead e => exact linked_bind (linked_routeRead h contact e) fun _ _ _ h1 => h1
  | routeWrite e =>
    exact linked_bind (linked_routeWrite h fun m hm => hfresh m (mem_moments_bind_left hm)) fun _ _ _ h1 => h1
  | setStatus code status => exact linked_bind (linked_setStatus h code status) fun _ _ _ h1 => h1

/-- the world after operations one after another, whether they succeed or fail -/
def runAll (contact : String) (ops : List Operation) (w : World) : World :=
  performAll World.answer (ops.map (·.action contact)) w

/-- every id that a new mapping gets in a run is new -/
def DrawsFreshIds (contact : String) (ops : List Operation) (w : World) : Prop :=
  ∀ m ∈ momentsAll World.answer (ops.map (·.action contact)) w, World.surroundings.DrawsFresh m

instance (contact : String) (ops : List Operation) (w : World) : Decidable (DrawsFreshIds contact ops w) :=
  inferInstanceAs (Decidable (∀ m ∈ momentsAll World.surroundings.answer (ops.map (·.action contact)) w,
    World.surroundings.DrawsFresh m))

theorem linked_runAll (contact : String) (ops : List Operation) (h : Linked w) (hfresh : DrawsFreshIds contact ops w) :
    Linked (runAll contact ops w) := by
  induction ops generalizing w with
  | nil => exact h
  | cons op ops ih =>
    obtain ⟨hop, hops⟩ := List.forall_mem_append.1 hfresh
    exact ih (linked_action contact op h hop) hops

/-! ## Beside a world without a cache -/

theorem fetch_uncached (code : String) : (fetch code).Only Call.Uncached := by
  refine only_bind (only_step trivial only_repositoryAnswer) fun found => ?_
  cases found with
  | none => exact only_pure _
  | some m => exact only_bind (only_step trivial fun _ => trivial) fun _ => only_pure _

theorem RoutesWrite.uncached {c : Call} (h : RoutesWrite c) : c.Uncached := by
  cases c with
  | channelCacheGet | mappingCacheGet => exact h.elim
  | _ => trivial

/-- a path to write to is found without asking the cache -/
theorem routeWrite_uncached (contact : String) (e : Equipment) : (routeWrite contact e).Only Call.Uncached :=
  only_mono (fun _ => RoutesWrite.uncached) (routeWrite_calls contact e)

theorem fetch_found {code : String} {m : Mapping} (hstores : w.faults.StoresNeverFail)
    (hm : w.mappings.get? (.equipmentCode code) = some m) : ∃ w1, (fetch code).run w = (.ok (some m), w1) := by
  have hfault := hstores w.calls (.mappingGet (.equipmentCode code))
  have hfind : (find (.equipmentCode code)).run w =
      (.ok (some m), { w with calls := w.calls ++ [.mappingGet (.equipmentCode code)] }) := by
    simp only [find, Program.run, perform, World.answer, World.onRepository, hfault, hm, repositoryAnswer]
  rw [fetch, World.run_bind_of_ok hfind]
  exact ⟨_, rfl⟩

/-- in a linked world a path to read from is the one found without a cache -/
theorem routeRead_of_linked (h : Linked w) (hstores : w.faults.StoresNeverFail) (contact : String) (e : Equipment) :
    ((routeRead contact e).run w).1 = ((routeRead contact e).run { w with mappingCache := .absent }).1 := by
  rcases hcode : e.equipmentCode with _ | code
  · rw [routeRead_of_no_code hcode]
    rfl
  rw [routeRead_of_code hcode, lookUp_read_eq, LawfulMonad.bind_assoc]
  let w1 : World := { w with mappingCache := (w.mappingCache.get code).2 }
  let bare : World := { w with mappingCache := .absent }
  change (((match (w.mappingCache.get code).1 with
    | some m => pure (some m)
    | none => fetch code) >>= readPath e code : Action _).run w1).1 = ((fetch code >>= readPath e code).run bare).1
  rcases hhit : (w.mappingCache.get code).1 with _ | m
  · have halike : World.Alike (fun _ => true) w1 bare := World.Alike.withCaches w1 w1.channelCache .absent
    have huncached : (fetch code >>= readPath e code).Only Call.Uncached :=
      only_bind (fetch_uncached code) (readPath_only (fun _ => trivial) e code)
    exact (halike.run huncached w1.faults.dependOn_all).1
  · obtain ⟨n, hn, hagrees⟩ := h.cached code m (ReadCache.get_found hhit)
    obtain ⟨w2, hfetch⟩ := fetch_found (w := bare) hstores hn
    rw [World.run_bind_of_ok hfetch]
    change Except.ok (some (m.pathFor code)) = Except.ok (some (n.pathFor code))
    rw [hagrees.pathFor]

/-- **The mapping cache does not change routes.** Take any run of operations from a store without repeated ids and from an
empty cache of any time to live, where the ids of new mappings are new. However much time passes on the way, at its end each
cached mapping has the status of the stored one with its id, which is there, and if the stores do not fail, a path to read
from is the one found without a cache, although codes that joined later may be missing from a cached mapping. A path to write
to is the same whatever is cached, and so is the store that asking for it leaves. -/
theorem routing_cache (contact : String) :
    (∀ (ops : List Operation) (w : World) (ttl : Nat) (clock : Clock), w.mappingCache = .present { ttl, clock } →
      (w.mappings.map (·.id)).Nodup →
      DrawsFreshIds contact ops w →
      let s := runAll contact ops w
      (∀ code m, s.mappingCache.Holds code m →
        (∃ n ∈ s.mappings, n.id = m.id) ∧ ∀ n ∈ s.mappings, n.id = m.id → n.status = m.status) ∧
      (w.faults.StoresNeverFail → ∀ e,
        ((routeRead contact e).run s).1 = ((routeRead contact e).run { s with mappingCache := .absent }).1)) ∧
    ∀ (w : World) (cache cache' : ReadCache Mapping) (e : Equipment),
      let x := (routeWrite contact e).run { w with mappingCache := cache }
      let x' := (routeWrite contact e).run { w with mappingCache := cache' }
      x.1 = x'.1 ∧ x.2.mappings = x'.2.mappings := by
  refine ⟨?_, ?_⟩
  · intro ops w ttl clock hcache hids hfresh s
    have hw : Linked w := by
      refine ⟨hids, fun code m hm => ?_⟩
      rw [hcache] at hm
      exact (ReadCache.not_holds_empty ttl clock code m hm).elim
    have hs : Linked s := linked_runAll contact ops hw hfresh
    refine ⟨fun code m hm => ?_, fun hstores e => ?_⟩
    · obtain ⟨n, hn, hagrees⟩ := hs.cached code m hm
      have hmem := (Store.get?_equipmentCode_eq_some hn).1
      refine ⟨⟨n, hmem, hagrees.id⟩, fun n' hn' hid => ?_⟩
      rw [List.inj_on_of_nodup_map hs.ids hn' hmem (hid.trans hagrees.id.symm)]
      exact hagrees.status
    · have hfaults : s.faults = w.faults := (World.performAll_fixed _ w).2
      rw [← hfaults] at hstores
      exact routeRead_of_linked hs hstores contact e
  · intro w cache cache' e x x'
    have halike : World.Alike (fun _ => true) { w with mappingCache := cache } { w with mappingCache := cache' } :=
      World.Alike.withCaches { w with mappingCache := cache } w.channelCache cache'
    obtain ⟨hanswer, hafter⟩ := halike.run (routeWrite_uncached contact e) w.faults.dependOn_all
    exact ⟨hanswer, hafter.mappings.symm⟩

/-! ## A run in a world -/

def secondPump : Equipment :=
  ⟨"M2:S2", "M2", [⟨.equipmentSystem, "E2"⟩, ⟨.brand, "B1"⟩, ⟨.technology, "T1"⟩]⟩

/-- the pump's mapping is enabled and read through the cache, and then the second pump joins it -/
def pumpsRun : List Operation :=
  [.routeWrite pump, .setStatus "E1" .enabled, .routeRead pump, .routeWrite secondPump]

/-- the plant with an empty cache for mappings, on whose clock a day passes before the fourth look -/
def cachingPlant : World :=
  { plant with
    mappingCache := .present { Cache.withHours 24 with clock := { passes := [0, 0, 0, 86400000000000] } } }

/-- the cached mapping of the pump lacks the second pump's code, and yet leads to the same path; when it expires in the midst
of the run, the one that takes its place has the code -/
theorem routing_cache_pumps :
    let ops := pumpsRun ++ [.routeRead pump, .routeRead pump]
    let s := runAll "ops" pumpsRun cachingPlant
    let renewed := runAll "ops" ops cachingPlant
    (cachingPlant.mappings.map (·.id)).Nodup ∧ DrawsFreshIds "ops" pumpsRun cachingPlant ∧
      DrawsFreshIds "ops" ops cachingPlant ∧ s.mappings.map (·.equipmentCodes) = [["E0"], ["E1", "E2"]] ∧
      s.mappingCache.Holds "E1" { pumpMapping with status := .enabled } ∧
      (∀ n ∈ s.mappings, n.id = pumpMapping.id → n.status = .enabled) ∧
      ((routeRead "ops" pump).run s).1 = ((routeRead "ops" pump).run { s with mappingCache := .absent }).1 ∧
      ¬ renewed.mappingCache.Holds "E1" { pumpMapping with status := .enabled } ∧
      renewed.mappingCache.Holds "E1" { pumpMapping with equipmentCodes := ["E1", "E2"], status := .enabled } ∧
      ((routeRead "ops" pump).run renewed).1 = ((routeRead "ops" pump).run { renewed with mappingCache := .absent }).1 := by
  intro ops s renewed
  have hids : (cachingPlant.mappings.map (·.id)).Nodup := by decide +kernel
  have hfresh : DrawsFreshIds "ops" pumpsRun cachingPlant := by decide +kernel
  have hfresh' : DrawsFreshIds "ops" ops cachingPlant := by decide +kernel
  have hcached : s.mappingCache.Holds "E1" { pumpMapping with status := .enabled } := by decide +kernel
  have hrenewed : ¬ renewed.mappingCache.Holds "E1" { pumpMapping with status := .enabled } ∧
      renewed.mappingCache.Holds "E1" { pumpMapping with equipmentCodes := ["E1", "E2"], status := .enabled } := by
    decide +kernel
  obtain ⟨hstatus, hread⟩ := (routing_cache "ops").1 pumpsRun cachingPlant _ _ rfl hids hfresh
  obtain ⟨-, hread'⟩ := (routing_cache "ops").1 ops cachingPlant _ _ rfl hids hfresh'
  exact ⟨hids, hfresh, hfresh', by decide +kernel, hcached, (hstatus "E1" _ hcached).2, hread (fun _ _ => rfl) pump,
    hrenewed.1, hrenewed.2, hread' (fun _ _ => rfl) pump⟩

end Telemetry.Storage
