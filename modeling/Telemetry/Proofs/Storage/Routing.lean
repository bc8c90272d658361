import Telemetry.Proofs.Quiet
/-
What routing and the setting of a status do to the mapping store.

`WriteRouted` lists all that asking for a path to write to may come to, and `StatusSet` all that setting a status may come
to; `routeWrite_cases` and `setStatus_cases` say that nothing else happens. What follows about routes is a case analysis of
these two.

- `routeWrite_calls`, `routeWrite_only`: which calls ask for a path to write to; they change the store by provisioning alone.
-/
namespace Telemetry.Storage

open Program

/-! ## Calls -/

/-- a call that changes nothing, or provisions a mapping -/
def Provisions (c : Call) : Prop := c.Quiet ∨ ∃ candidate, c = .mappingProvision candidate

theorem Provisions.keeps_writes {c : Call} (h : Provisions c) : c.changes ≠ some .writes := by
  rcases h with h | ⟨candidate, rfl⟩
  · exact h.keeps .writes
  · simp [Call.changes]

/-- a call made to find a path to write to -/
def RoutesWrite : Call → Prop
  | .mappingGet _ | .mappingCacheSet .. | .mappingCacheDrop _ | .mappingProvision _ | .hierarchyNode _ => True
  | _ => False

theorem RoutesWrite.provisions {c : Call} (h : RoutesWrite c) : Provisions c := by
  cases c with
  | mappingGet | mappingCacheSet | mappingCacheDrop | hierarchyNode => exact Or.inl rfl
  | mappingProvision candidate => exact Or.inr ⟨candidate, rfl⟩
  | _ => exact h.elim

theorem provision_calls (candidate : Candidate) : (provision candidate).Only RoutesWrite := by
  refine only_step trivial fun r => ?_
  cases r <;> trivial

theorem lookUp_write_calls (code : String) : (lookUp code .write).Only RoutesWrite :=
  only_bind (only_pure _) (findCovering_only trivial fun _ => trivial)

/-- the calls made to find a path to write to -/
theorem routeWrite_calls (contact : String) (e : Equipment) : (routeWrite contact e).Only RoutesWrite := by
  unfold routeWrite
  refine only_bind ?_ fun path => only_orFail _ _
  unfold route
  split
  · exact only_pure _
  · rename_i code hcode
    refine only_bind (lookUp_write_calls code) fun found => ?_
    cases found with
    | some m => exact only_bind (only_ofExcept _) fun _ => only_pure _
    | none =>
      refine only_bind (suggest_only (fun _ => trivial) e code) fun suggested => ?_
      cases suggested with
      | none => exact only_pure _
      | some candidate =>
        refine only_bind (provision_calls candidate) fun outcome => ?_
        refine only_bind (only_step trivial fun _ => trivial) fun _ => ?_
        exact only_bind (only_ofExcept _) fun _ => only_pure _

/-- asking for a path to write to changes the store by provisioning alone -/
theorem routeWrite_only (contact : String) (e : Equipment) : (routeWrite contact e).Only Provisions :=
  only_mono (fun _ => RoutesWrite.provisions) (routeWrite_calls contact e)

/-! ## Single calls, performed -/

variable (S : MappingSurroundings)

theorem quiet_mappings {α : Type} {p : Action α} (hp : p.Only Call.Quiet) {s s' : S.State}
    {r : Except ServiceError α} (h : p.perform S.answer s = (r, s')) : S.mappings s' = S.mappings s := by
  have := S.mappings_perform (only_mono (fun c hc => Call.Quiet.keeps hc .mappings) hp) s
  rwa [h] at this

theorem find_ok {filter : Filter} {s s' : S.State} {found : Option Mapping}
    (h : (find filter).perform S.answer s = (.ok found, s')) : found = (S.mappings s).get? filter := by
  unfold find at h
  simp only [perform] at h
  rcases hr : S.answer s (.mappingGet filter) with ⟨e | m, s1⟩
  · rw [hr] at h; cases h
  · rw [hr] at h; cases h
    exact S.mapping_found hr

/-- a write finds the mapping that the store holds -/
theorem lookUp_write_ok {code : String} {s s' : S.State} {found : Option Mapping}
    (h : (lookUp code .write).perform S.answer s = (.ok found, s')) :
    found = (S.mappings s).get? (.equipmentCode code) := by
  obtain ⟨hit, s0, hpure, hrest⟩ := perform_bind_ok.1 (h : (pure none >>= _ : Action _).perform S.answer s = _)
  cases hpure
  obtain ⟨m, s1, hfind, hcached⟩ := perform_bind_ok.1 hrest
  cases m with
  | none => cases hcached; exact find_ok S hfind
  | some m => cases hcached; exact find_ok S hfind

theorem provision_cases_perform (candidate : Candidate) (s : S.State) :
    (∃ e s', (provision candidate).perform S.answer s = (.error e, s') ∧ S.mappings s' = S.mappings s) ∨
      ∃ outcome s', (provision candidate).perform S.answer s = (.ok outcome, s') ∧
        (S.mappings s).provision (S.nextId s) candidate = (outcome, S.mappings s') := by
  unfold provision
  simp only [perform]
  rcases hr : S.answer s (.mappingProvision candidate) with ⟨e | outcome, s'⟩
  · exact Or.inl ⟨_, s', rfl, S.mapping_not_provisioned hr⟩
  · exact Or.inr ⟨outcome, s', rfl, S.mapping_provisioned hr⟩

/-! ## A path to write to -/

/-- all that asking for a path to write to may come to: a result and the state left behind -/
inductive WriteRouted (contact : String) (e : Equipment) (s : S.State) : Except ServiceError Path → S.State → Prop
  /-- a stored mapping covers the code, and decides -/
  | covered (code : String) (m : Mapping) (s' : S.State) (hcode : e.equipmentCode = some code)
      (hfound : (S.mappings s).get? (.equipmentCode code) = some m) (hs : S.mappings s' = S.mappings s) :
      WriteRouted contact e s ((checkEnabled contact e code m).map fun _ => m.pathFor code) s'
  /-- no stored mapping covers the code; one is provisioned, and decides -/
  | provisioned (code : String) (candidate : Candidate) (outcome : ProvisionOutcome) (s1 s' : S.State)
      (hcode : e.equipmentCode = some code) (hcandidate : candidate.equipmentCode = code)
      (hfound : (S.mappings s).get? (.equipmentCode code) = none) (hs1 : S.mappings s1 = S.mappings s)
      (hcall : ⟨s1, .mappingProvision candidate⟩ ∈ (routeWrite contact e).moments S.answer s)
      (houtcome : (S.mappings s).provision (S.nextId s1) candidate = (outcome, S.mappings s')) :
      WriteRouted contact e s ((checkEnabled contact e code outcome.mapping).map fun _ => outcome.mapping.pathFor code) s'
  /-- there is no path, or a collaborator failed before the store was touched -/
  | refused (failure : ServiceError) (s' : S.State) (hs : S.mappings s' = S.mappings s) :
      WriteRouted contact e s (.error failure) s'

theorem suggest_ok {e : Equipment} {code : String} {s s' : S.State} {candidate : Candidate}
    (h : (suggest e code).perform S.answer s = (.ok (some candidate), s')) : candidate.equipmentCode = code := by
  unfold suggest at h
  split at h
  · obtain ⟨brand, s1, -, h⟩ := perform_bind_ok.1 h
    obtain ⟨technology, s2, -, h⟩ := perform_bind_ok.1 h
    cases h
    rfl
  · cases h

def enabledPath (contact : String) (e : Equipment) (code : String) (m : Mapping) : Action (Option Path) := do
  Program.ofExcept (checkEnabled contact e code m)
  return some (m.pathFor code)

/-- the path through a mapping provisioned for the code -/
def provisionedPath (contact : String) (e : Equipment) (code : String) (candidate : Candidate) : Action (Option Path) := do
  let outcome ← provision candidate
  evict code
  enabledPath contact e code outcome.mapping

/-- the path for a code that no mapping covers -/
def uncoveredPath (contact : String) (e : Equipment) (code : String) : Action (Option Path) := do
  match ← suggest e code with
  | none => return none
  | some candidate => provisionedPath contact e code candidate

theorem routeWrite_of_no_code {contact : String} {e : Equipment} (hcode : e.equipmentCode = none) :
    routeWrite contact e = Program.fail (.noStoragePath e.wkeid) := by
  unfold routeWrite route
  rw [hcode]
  rfl

/-- for an equipment with a code, the stored mapping comes first, and the hierarchy only if there is none -/
theorem routeWrite_of_code {contact : String} {e : Equipment} {code : String} (hcode : e.equipmentCode = some code) :
    routeWrite contact e = lookUp code .write >>= fun found =>
      (match found with
        | some m => enabledPath contact e code m
        | none => uncoveredPath contact e code) >>= Program.orFail (.noStoragePath e.wkeid) := by
  have hroute : route contact e .write = (do
      match ← lookUp code .write with
      | some m => enabledPath contact e code m
      | none => uncoveredPath contact e code) := by
    unfold route
    rw [hcode]
    rfl
  unfold routeWrite
  rw [hroute, LawfulMonad.bind_assoc]

/-- a mapping decides by itself -/
theorem perform_enabledPath (contact : String) (e : Equipment) (code : String) (m : Mapping) (s : S.State) :
    (enabledPath contact e code m >>= Program.orFail (.noStoragePath e.wkeid)).perform S.answer s =
      ((checkEnabled contact e code m).map fun _ => m.pathFor code, s) := by
  unfold enabledPath
  cases checkEnabled contact e code m <;> rfl

/-- provisioning fails and leaves the store as it was, or the outcome's mapping decides -/
theorem perform_provisionedPath (contact : String) (e : Equipment) (code : String) (candidate : Candidate) (s : S.State) :
    (∃ failure s', (provisionedPath contact e code candidate >>= Program.orFail (.noStoragePath e.wkeid)).perform
        S.answer s = (.error failure, s') ∧ S.mappings s' = S.mappings s) ∨
      ∃ outcome s', (provisionedPath contact e code candidate >>= Program.orFail (.noStoragePath e.wkeid)).perform
        S.answer s = ((checkEnabled contact e code outcome.mapping).map fun _ => outcome.mapping.pathFor code, s') ∧
        (S.mappings s).provision (S.nextId s) candidate = (outcome, S.mappings s') := by
  rw [provisionedPath, LawfulMonad.bind_assoc]
  rcases provision_cases_perform S candidate s with ⟨failure, s1, hp, hs1⟩ | ⟨outcome, s1, hp, houtcome⟩
  · exact Or.inl ⟨failure, s1, perform_bind_of_error hp, hs1⟩
  · have hevict : (evict code).perform S.answer s1 = (.ok (S.answer s1 (.mappingCacheDrop code)).1,
        (S.answer s1 (.mappingCacheDrop code)).2) := rfl
    have hs2 := S.mappings_kept s1 (.mappingCacheDrop code) (by simp [Call.changes])
    refine Or.inr ⟨outcome, _, ?_, houtcome.trans (by rw [hs2])⟩
    rw [perform_bind_of_ok hp, LawfulMonad.bind_assoc, perform_bind_of_ok hevict, perform_enabledPath]

theorem writeRouted (contact : String) (e : Equipment) (s : S.State) :
    WriteRouted S contact e s ((routeWrite contact e).perform S.answer s).1
      ((routeWrite contact e).perform S.answer s).2 := by
  rcases hcode : e.equipmentCode with _ | code
  · rw [routeWrite_of_no_code hcode]
    exact .refused _ _ rfl
  have hroute : routeWrite contact e = _ := routeWrite_of_code hcode
  -- up to the call that provisions, everything is quiet, so every failure leaves the store as it was
  rcases hl : (lookUp code .write).perform S.answer s with ⟨failure | found, s1⟩
  · rw [hroute, perform_bind_of_error hl]
    exact .refused _ _ (quiet_mappings S (lookUp_quiet code .write) hl)
  have hs1 := quiet_mappings S (lookUp_quiet code .write) hl
  have hfound := lookUp_write_ok S hl
  cases found with
  | some m =>
    rw [hroute, perform_bind_of_ok hl, perform_enabledPath]
    exact .covered code m s1 hcode hfound.symm hs1
  | none =>
    rcases hsuggest : (suggest e code).perform S.answer s1 with ⟨failure | suggested, s2⟩
    · rw [hroute, perform_bind_of_ok hl, uncoveredPath, LawfulMonad.bind_assoc, perform_bind_of_error hsuggest]
      exact .refused _ _ ((quiet_mappings S (suggest_quiet e code) hsuggest).trans hs1)
    have hs2 := (quiet_mappings S (suggest_quiet e code) hsuggest).trans hs1
    cases suggested with
    | none =>
      rw [hroute, perform_bind_of_ok hl, uncoveredPath, LawfulMonad.bind_assoc, perform_bind_of_ok hsuggest]
      exact .refused _ _ hs2
    | some candidate =>
      have hrest : (routeWrite contact e).perform S.answer s =
          (provisionedPath contact e code candidate >>= Program.orFail (.noStoragePath e.wkeid)).perform S.answer s2 := by
        rw [hroute, perform_bind_of_ok hl, uncoveredPath, LawfulMonad.bind_assoc, perform_bind_of_ok hsuggest]
      rcases perform_provisionedPath S contact e code candidate s2 with ⟨failure, s3, hp, hs3⟩ | ⟨outcome, s3, hp, hout⟩
      · rw [hrest, hp]
        exact .refused _ _ (hs3.trans hs2)
      · rw [hrest, hp]
        rw [hs2] at hout
        refine .provisioned code candidate outcome s2 s3 hcode (suggest_ok S hsuggest) hfound.symm hs2 ?_ hout
        -- the call is where the first two steps lead
        rw [hroute]
        refine mem_moments_bind_right hl (mem_moments_bind_left (mem_moments_bind_right hsuggest ?_))
        exact mem_moments_bind_left List.mem_cons_self

/-- asking for a path to write to comes to one of these -/
theorem routeWrite_cases {contact : String} {e : Equipment} {s s' : S.State} {r : Except ServiceError Path}
    (h : (routeWrite contact e).perform S.answer s = (r, s')) : WriteRouted S contact e s r s' := by
  have := writeRouted S contact e s
  rwa [h] at this

/-! ## Setting a status -/

/-- all that setting a status may come to: a result and the state left behind -/
inductive StatusSet (code : String) (status : Status) (s : S.State) : Except ServiceError Mapping → S.State → Prop
  /-- the first mapping that covers the code is stored with the status -/
  | stored (m : Mapping) (s' : S.State) (hfound : (S.mappings s).get? (.equipmentCode code) = some m)
      (hs : S.mappings s' = (S.mappings s).upsert { m with status }) : StatusSet code status s (.ok { m with status }) s'
  /-- no mapping covers the code, or a collaborator failed -/
  | refused (failure : ServiceError) (s' : S.State) (hs : S.mappings s' = S.mappings s) :
      StatusSet code status s (.error failure) s'

theorem evictAll_quiet (codes : List String) : (evictAll codes).Only Call.Quiet := by
  induction codes with
  | nil => exact only_pure _
  | cons code codes ih => exact only_bind (only_step rfl fun _ => trivial) fun _ => ih

theorem perform_evictAll (codes : List String) (s : S.State) :
    ∃ s', (evictAll codes).perform S.answer s = (.ok (), s') := by
  induction codes generalizing s with
  | nil => exact ⟨s, rfl⟩
  | cons code codes ih => exact ih _

theorem upsert_cases_perform (m : Mapping) (s : S.State) :
    (∃ e s', (upsert m).perform S.answer s = (.error e, s') ∧ S.mappings s' = S.mappings s) ∨
      ∃ s', (upsert m).perform S.answer s = (.ok m, s') ∧ S.mappings s' = (S.mappings s).upsert m := by
  unfold upsert
  simp only [perform]
  rcases hr : S.answer s (.mappingUpsert m) with ⟨e | stored, s'⟩
  · exact Or.inl ⟨_, s', rfl, S.mapping_not_stored hr⟩
  · obtain ⟨rfl, hs'⟩ := S.mapping_stored hr
    exact Or.inr ⟨s', rfl, hs'⟩

theorem statusSet (code : String) (status : Status) (s : S.State) :
    StatusSet S code status s ((setStatus code status).perform S.answer s).1
      ((setStatus code status).perform S.answer s).2 := by
  have hquiet : (find (.equipmentCode code)).Only Call.Quiet := only_step rfl only_repositoryAnswer
  unfold setStatus
  rcases hf : (find (.equipmentCode code)).perform S.answer s with ⟨failure | found, s1⟩
  · rw [perform_bind_of_error hf]
    exact .refused _ _ (quiet_mappings S hquiet hf)
  have hs1 := quiet_mappings S hquiet hf
  have hfound := find_ok S hf
  rw [perform_bind_of_ok hf]
  cases found with
  | none => exact .refused _ _ hs1
  | some m =>
    have h : (Program.orFail (.mappingNotFound code) (some m) : Action Mapping).perform S.answer s1 = (.ok m, s1) := rfl
    rcases upsert_cases_perform S { m with status } s1 with ⟨failure, s2, hu, hs2⟩ | ⟨s2, hu, hs2⟩
    · rw [perform_bind_of_ok h, perform_bind_of_error hu]
      exact .refused _ _ (hs2.trans hs1)
    · obtain ⟨s3, he⟩ := perform_evictAll S m.equipmentCodes s2
      have hs3 := quiet_mappings S (evictAll_quiet _) he
      rw [perform_bind_of_ok h, perform_bind_of_ok hu, perform_bind_of_ok he]
      rw [hs1] at hs2
      exact .stored m s3 hfound.symm (hs3.trans hs2)

/-- setting a status comes to one of these -/
theorem setStatus_cases {code : String} {status : Status} {s s' : S.State} {r : Except ServiceError Mapping}
    (h : (setStatus code status).perform S.answer s = (r, s')) : StatusSet S code status s r s' := by
  have := statusSet S code status s
  rwa [h] at this

end Telemetry.Storage
