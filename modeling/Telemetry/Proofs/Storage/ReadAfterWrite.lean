import Telemetry.Proofs.Storage.CachedRoutes
/-
A path that was written to is the path to read from.

A write finds its path past the cache: through the mapping that is stored for the code, or through one that it provisions. It
leaves the cache so that a read does not miss this mapping: what was stored is cached, and what was provisioned drops the
entry of the code. So whether or not the cache is asked first, a read finds the path (`LeadsTo`).

- `leadsTo_of_routeWrite`: a write leaves mappings and cache that lead to its path;
- `routeRead_of_leadsTo`: where they lead to a path, a read finds it.
-/
namespace Telemetry.Storage

open Program

variable {α : Type} {w u w1 : World} {contact code : String} {e : Equipment} {path : Path}

/-- each cached mapping agrees with the first stored one that covers the code -/
def CacheAgrees (w : World) : Prop :=
  ∀ code m, w.mappingCache.Holds code m → ∃ n, w.mappings.get? (.equipmentCode code) = some n ∧ m.Agrees n

theorem CacheAgrees.congr (h : CacheAgrees w) (hmappings : u.mappings = w.mappings)
    (hcache : u.mappingCache = w.mappingCache) : CacheAgrees u := by
  unfold CacheAgrees
  rw [hmappings, hcache]
  exact h

/-- a code is covered, and its mapping leads to the path, whether it is the stored or a cached one -/
structure LeadsTo (w : World) (code : String) (path : Path) : Prop where
  stored : ∃ n, w.mappings.get? (.equipmentCode code) = some n ∧ n.pathFor code = path
  cached : ∀ m, w.mappingCache.Holds code m → m.pathFor code = path

theorem LeadsTo.congr (h : LeadsTo w code path) (hmappings : u.mappings = w.mappings)
    (hcache : u.mappingCache = w.mappingCache) : LeadsTo u code path := by
  refine ⟨?_, ?_⟩
  · rw [hmappings]
    exact h.stored
  · rw [hcache]
    exact h.cached

/-! ## Calls that touch no mapping -/

/-- a call that neither changes the stored mappings nor asks their cache -/
def NoMapping : Call → Prop
  | .mappingUpsert _ | .mappingProvision _ | .mappingCacheGet _ | .mappingCacheSet .. | .mappingCacheDrop _ => False
  | _ => True

theorem noMapping_answer (w : World) {c : Call} (hc : NoMapping c) :
    (w.answer c).2.mappings = w.mappings ∧ (w.answer c).2.mappingCache = w.mappingCache := by
  cases c with
  | mappingUpsert | mappingProvision | mappingCacheGet | mappingCacheSet | mappingCacheDrop => exact hc.elim
  | _ =>
    refine ⟨World.mappings_answer w _ (by simp [Call.changes]), ?_⟩
    simp only [World.answer, World.onRepository, World.onHierarchy, World.onHistorian, World.upsertChannel,
      World.deleteChannels]
    repeat' split
    all_goals rfl

theorem noMapping_run {ε : Type} {p : Program ε α} (hp : p.Only NoMapping) (w : World) :
    (p.run w).2.mappings = w.mappings ∧ (p.run w).2.mappingCache = w.mappingCache :=
  perform_invariant (I := fun v : World => v.mappings = w.mappings ∧ v.mappingCache = w.mappingCache)
    (fun v _ hc hv => ⟨(noMapping_answer v hc).1.trans hv.1, (noMapping_answer v hc).2.trans hv.2⟩) hp ⟨rfl, rfl⟩

/-! ## After a write -/

theorem enabledPath_run_ok {m : Mapping} (h : (enabledPath contact e code m).run w = (.ok (some path), w1)) :
    path = m.pathFor code ∧ w1 = w := by
  obtain ⟨_, w2, hcheck, hdone⟩ := World.run_bind_ok.1 h
  obtain ⟨-, rfl⟩ := perform_ofExcept_ok.1 hcheck
  cases hdone
  exact ⟨rfl, rfl⟩

/-- a mapping that was found and cached leads to its path -/
theorem leadsTo_of_fetch {m : Mapping} (hw : CacheAgrees w) (h : (fetch code).run w = (.ok (some m), w1)) :
    LeadsTo w1 code (m.pathFor code) := by
  obtain ⟨stored, w2, hfind, hcached⟩ := World.run_bind_ok.1 h
  obtain ⟨hmappings, hcache⟩ := noMapping_run (p := find (.equipmentCode code)) (only_step trivial only_repositoryAnswer) w
  have hfound := find_run_ok hfind
  rw [hfind] at hmappings hcache
  cases stored with
  | none => cases hcached
  | some stored =>
    cases hcached
    refine ⟨⟨m, hfound.symm, rfl⟩, fun m' hm' => ?_⟩
    rcases ReadCache.holds_set hm' with ⟨-, rfl⟩ | hheld
    · rfl
    · rw [hcache] at hheld
      obtain ⟨n, hn, hagrees⟩ := hw code m' hheld
      rw [hmappings, hn] at hfound
      cases hfound
      exact (hagrees.pathFor code).symm

/-- a mapping that was provisioned leads to its path -/
theorem leadsTo_of_provisioned {candidate : Candidate} (hcandidate : candidate.equipmentCode = code)
    (hnone : w.mappings.get? (.equipmentCode code) = none)
    (h : (provisionedPath contact e code candidate).run w = (.ok (some path), w1)) : LeadsTo w1 code path := by
  rw [provisionedPath] at h
  obtain ⟨outcome, w2, hprovision, h⟩ := World.run_bind_ok.1 h
  obtain ⟨_, w3, hevict, h⟩ := World.run_bind_ok.1 h
  obtain ⟨rfl, rfl⟩ := enabledPath_run_ok h
  have houtcome : outcome = (w.mappings.provision (w.ids w.idsTaken) candidate).1 ∧
      w2.mappings = (w.mappings.provision (w.ids w.idsTaken) candidate).2 := by
    rw [provision, Program.run, perform, World.answer, World.onRepository] at hprovision
    rcases hfault : w.faults.repository w.calls (.mappingProvision candidate) with _ | failure <;> rw [hfault] at hprovision <;>
      cases hprovision
    exact ⟨rfl, rfl⟩
  obtain ⟨rfl, hmappings⟩ := houtcome
  cases hevict
  subst hcandidate
  refine ⟨⟨_, ?_, rfl⟩, fun m hm => ?_⟩
  · exact (congrArg (Store.get? · _) hmappings).trans (Store.provision_get?_outcome _ hnone)
  · exact absurd rfl (ReadCache.holds_invalidate hm).1

/-- a write leaves mappings and a cache that lead to its path -/
theorem leadsTo_of_routeWrite (hw : CacheAgrees w) (hcode : e.equipmentCode = some code)
    (h : (routeWrite contact e).run w = (.ok path, w1)) : LeadsTo w1 code path := by
  rw [routeWrite_of_code hcode] at h
  obtain ⟨found, w2, hlookUp, h⟩ := World.run_bind_ok.1 h
  obtain ⟨path?, w3, hpath, h⟩ := World.run_bind_ok.1 h
  cases path? with
  | none => cases h
  | some path =>
    cases h
    cases found with
    | some m =>
      obtain ⟨rfl, rfl⟩ := enabledPath_run_ok hpath
      exact leadsTo_of_fetch hw hlookUp
    | none =>
      have hquiet := lookUp_quiet code .write
      have hmappings : w2.mappings = w.mappings := quiet_mappings World.surroundings hquiet hlookUp
      have hnone : w.mappings.get? (.equipmentCode code) = none := (lookUp_write_ok World.surroundings hlookUp).symm
      obtain ⟨suggested, w4, hsuggest, hprovisioned⟩ := World.run_bind_ok.1 hpath
      have hkept : w4.mappings = w2.mappings := quiet_mappings World.surroundings (suggest_quiet e code) hsuggest
      cases suggested with
      | none => cases hprovisioned
      | some candidate =>
        refine leadsTo_of_provisioned (suggest_ok World.surroundings hsuggest) ?_ hprovisioned
        rw [hkept, hmappings, hnone]

/-! ## A read -/

/-- where the mappings and the cache lead to a path, a read finds it -/
theorem routeRead_of_leadsTo (contact : String) (h : LeadsTo w code path) (hcode : e.equipmentCode = some code)
    (hstores : w.faults.StoresNeverFail) : ∃ w1, (routeRead contact e).run w = (.ok (some path), w1) := by
  have hcached : (cached code).run w =
      (.ok (w.mappingCache.get code).1, { w with mappingCache := (w.mappingCache.get code).2 }) := rfl
  rw [routeRead_of_code hcode, lookUp_read_eq, LawfulMonad.bind_assoc, World.run_bind_of_ok hcached]
  rcases hhit : (w.mappingCache.get code).1 with _ | m
  · obtain ⟨n, hn, rfl⟩ := h.stored
    obtain ⟨w1, hfetch⟩ := fetch_found (w := { w with mappingCache := (w.mappingCache.get code).2 }) hstores hn
    exact ⟨w1, World.run_bind_of_ok hfetch⟩
  · rw [← h.cached m (ReadCache.get_found hhit)]
    exact ⟨_, rfl⟩

end Telemetry.Storage
