import Telemetry.Proofs.Storage.CachedRoutes
/-
Routes that never split.

An equipment may be routed by a stored mapping, by a cached one, by what the hierarchy suggests, by a mapping that another
equipment was provisioned, or by joining one. `destination` says where its rows are, of the stored mappings and the hierarchy
alone. Every way of routing that succeeds leads there, and no operation moves it: a code that nothing covers is covered, if
ever, by a mapping of the measurement that was suggested for it.

- `routeRead_destination`, `routeWrite_destination`: whichever way an equipment is routed, it is to its destination;
- `destination_action`, `destination_runAll`: an operation, and so a run, leaves every destination where it is;
- `routes_never_split`: any two resolutions in a run agree, and the stored mappings agree with both.
-/
namespace Telemetry.Storage

open Program

/-! ## Destinations -/

/-- what the hierarchy suggests for an equipment, if its brand and technology are known -/
def suggestion (w : World) (e : Equipment) (code : String) : Option Candidate := do
  let brandCode ← e.brandCode
  let technologyCode ← e.technologyCode
  let brand ← (w.node brandCode).toOption
  let technology ← (w.node technologyCode).toOption
  return { database := storageName technology.name, measurement := storageName brand.name, equipmentCode := code, brandCode,
           technologyCode, brandName := brand.name, technologyName := technology.name }

/-- where the rows of an equipment's code are: where the first mapping that covers it says, or else where one would be
provisioned -/
def destinationOf (w : World) (e : Equipment) (code : String) : Option Path :=
  match w.mappings.get? (.equipmentCode code) with
  | some m => some (m.pathFor code)
  | none => (suggestion w e code).map (·.path)

def destination (w : World) (e : Equipment) : Option Path :=
  e.equipmentCode.bind (destinationOf w e)

variable {w w1 : World} {contact code : String} {e : Equipment}

theorem destination_of_code (hcode : e.equipmentCode = some code) : destination w e = destinationOf w e code := by
  rw [destination, hcode, Option.bind_some]

theorem destinationOf_covered {m : Mapping} (hm : w.mappings.get? (.equipmentCode code) = some m) :
    destinationOf w e code = some (m.pathFor code) := by
  rw [destinationOf, hm]

theorem destinationOf_uncovered (hnone : w.mappings.get? (.equipmentCode code) = none) :
    destinationOf w e code = (suggestion w e code).map (·.path) := by
  rw [destinationOf, hnone]

theorem node_congr (h : w1.nodes = w.nodes) (code : String) : w1.node code = w.node code := by
  unfold World.node
  rw [h]

theorem suggestion_congr (h : w1.nodes = w.nodes) (e : Equipment) (code : String) :
    suggestion w1 e code = suggestion w e code := by
  simp only [suggestion, node_congr h]

/-- equipment of one brand and one technology is suggested the same -/
theorem suggestion_shared {e' : Equipment} (hbrand : e'.brandCode = e.brandCode)
    (htechnology : e'.technologyCode = e.technologyCode) (w : World) (code : String) :
    suggestion w e' code = suggestion w e code := by
  simp only [suggestion, hbrand, htechnology]

theorem suggestion_equipmentCode {candidate : Candidate} (h : suggestion w e code = some candidate) :
    candidate.equipmentCode = code := by
  simp only [suggestion, Option.bind_eq_bind, Option.bind_eq_some_iff] at h
  obtain ⟨brandCode, -, technologyCode, -, brand, -, technology, -, hcandidate⟩ := h
  cases hcandidate
  rfl

/-- the stored mappings and the hierarchy decide -/
theorem destination_congr (hmappings : w1.mappings = w.mappings) (hnodes : w1.nodes = w.nodes) (e : Equipment) :
    destination w1 e = destination w e := by
  unfold destination
  congr 1
  funext code
  rw [destinationOf, destinationOf, hmappings, suggestion_congr hnodes]

/-! ## Every route leads there -/

theorem resolve_run_ok {node : Hierarchy.Node} (h : (Hierarchy.resolve code).run w = (.ok node, w1)) :
    w.node code = .ok node := by
  unfold Hierarchy.resolve at h
  simp only [Program.run, perform, World.answer, World.onHierarchy] at h
  rcases hfault : w.faults.hierarchy w.calls (.hierarchyNode code) with _ | failure
  · rw [hfault] at h
    rcases hnode : w.node code with failure | found
    · rw [hnode] at h
      cases h
    · rw [hnode] at h
      cases h
      rfl
  · rw [hfault] at h
    cases h

/-- what the hierarchy is found to suggest is what it suggests -/
theorem suggest_run_ok {found : Option Candidate} (h : (suggest e code).run w = (.ok found, w1)) :
    found = suggestion w e code := by
  unfold suggest at h
  rcases hbrand : e.brandCode with _ | brandCode
  · rw [hbrand] at h
    cases h
    simp only [suggestion, hbrand, Option.bind_eq_bind, Option.bind_none]
  rcases htechnology : e.technologyCode with _ | technologyCode
  · rw [hbrand, htechnology] at h
    cases h
    simp only [suggestion, hbrand, htechnology, Option.bind_eq_bind, Option.bind_some, Option.bind_none]
  rw [hbrand, htechnology] at h
  obtain ⟨brand, w2, hfirst, h⟩ := World.run_bind_ok.1 h
  obtain ⟨technology, w3, hsecond, h⟩ := World.run_bind_ok.1 h
  have hnodes : w2.nodes = w.nodes := by
    have := (World.run_fixed (Hierarchy.resolve brandCode) w).1
    rwa [hfirst] at this
  have hbrandNode := resolve_run_ok hfirst
  have htechnologyNode := resolve_run_ok hsecond
  rw [node_congr hnodes] at htechnologyNode
  cases h
  simp only [suggestion, hbrand, htechnology, hbrandNode, htechnologyNode, Except.toOption, Option.bind_eq_bind,
    Option.bind_some]
  rfl

theorem suggestedPath_run_ok {found : Option Path} (h : (suggestedPath e code).run w = (.ok found, w1)) :
    found = (suggestion w e code).map (·.path) := by
  obtain ⟨candidate, w2, hsuggest, h⟩ := World.run_bind_ok.1 h
  rw [← suggest_run_ok hsuggest]
  cases candidate with
  | none => cases h; rfl
  | some candidate => cases h; rfl

/-- a path to read from, found by asking the store -/
theorem fetch_readPath_run_ok {found : Option Path} (h : (fetch code >>= readPath e code).run w = (.ok found, w1)) :
    found = destinationOf w e code := by
  have hquiet : (find (.equipmentCode code)).Only Call.Quiet := only_step rfl only_repositoryAnswer
  obtain ⟨m, w2, hfetch, h⟩ := World.run_bind_ok.1 h
  obtain ⟨stored, w3, hfind, hfetch⟩ := World.run_bind_ok.1 hfetch
  have hmappings : w3.mappings = w.mappings := quiet_mappings World.surroundings hquiet hfind
  have hstored : w.mappings.get? (.equipmentCode code) = stored := by
    rw [find_run_ok hfind, hmappings]
  have hnodes : w3.nodes = w.nodes := by
    have := (World.run_fixed (find (.equipmentCode code)) w).1
    rwa [hfind] at this
  cases stored with
  | some stored =>
    cases hfetch
    cases h
    exact (destinationOf_covered hstored).symm
  | none =>
    cases hfetch
    rw [destinationOf_uncovered hstored, ← suggestion_congr hnodes]
    exact suggestedPath_run_ok h

/-- a path to read from is the destination, whether the mapping was cached, stored or missing -/
theorem routeRead_destination (h : Linked w) {found : Option Path}
    (hread : ((routeRead contact e).run w).1 = .ok found) : found = destination w e := by
  rcases hcode : e.equipmentCode with _ | code
  · rw [routeRead_of_no_code hcode] at hread
    cases hread
    rw [destination, hcode, Option.bind_none]
  rw [destination_of_code hcode]
  have hrun := perform_of_fst hread
  rw [routeRead_of_code hcode, lookUp_read_eq, LawfulMonad.bind_assoc] at hrun
  obtain ⟨hit, w1, hcached, hrest⟩ := World.run_bind_ok.1 hrun
  cases hcached
  have hanswer : (w.answer (.mappingCacheGet code)).1 = (w.mappingCache.get code).1 := rfl
  rcases hhit : (w.mappingCache.get code).1 with _ | m <;> rw [hanswer, hhit] at hrest
  · have hsame : destinationOf (w.answer (.mappingCacheGet code)).2 e code = destinationOf w e code := rfl
    rw [← hsame]
    exact fetch_readPath_run_ok hrest
  · obtain ⟨n, hn, hagrees⟩ := h.cached code m (ReadCache.get_found hhit)
    rw [destinationOf_covered hn, hagrees.pathFor]
    exact (Except.ok.inj (congrArg Prod.fst hrest)).symm

/-- provisioning a mapping for a candidate is the only change on the way to its path -/
theorem provisionedPath_only (contact : String) (e : Equipment) (code : String) (candidate : Candidate) :
    (provisionedPath contact e code candidate).Only fun c => c.Quiet ∨ c = .mappingProvision candidate := by
  refine only_bind (only_step (Or.inr rfl) fun answer => ?_) fun outcome => ?_
  · cases answer <;> trivial
  · refine only_bind (only_step (Or.inl rfl) fun _ => trivial) fun _ => ?_
    exact enabledPath_only contact e code outcome.mapping

/-- a mapping is provisioned for what the hierarchy suggests, and for nothing else -/
theorem provisioned_suggestion {m : Moment World} {candidate : Candidate}
    (hm : m ∈ (routeWrite contact e).moments World.answer w) (hcall : m.call = .mappingProvision candidate) :
    ∃ code, e.equipmentCode = some code ∧ suggestion w e code = some candidate := by
  have hloud : ¬ m.call.Quiet := by simp [hcall, Call.Quiet, Call.changes]
  rcases hcode : e.equipmentCode with _ | code
  · rw [routeWrite_of_no_code hcode] at hm
    cases hm
  refine ⟨code, rfl, ?_⟩
  rw [routeWrite_of_code hcode] at hm
  rcases mem_moments_bind hm with hm | ⟨found, w1, hlookUp, hm⟩
  · exact absurd (call_of_mem_moments (lookUp_quiet code .write) hm) hloud
  have hnodes : w1.nodes = w.nodes := by
    have := (World.run_fixed (lookUp code .write) w).1
    rwa [Program.run, hlookUp] at this
  rcases mem_moments_bind hm with hm | ⟨path, w2, -, hm⟩
  · cases found with
    | some stored => exact absurd (call_of_mem_moments (enabledPath_only contact e code stored) hm) hloud
    | none =>
      rcases mem_moments_bind hm with hm | ⟨suggested, w2, hsuggest, hm⟩
      · exact absurd (call_of_mem_moments (suggest_quiet e code) hm) hloud
      rw [← suggestion_congr hnodes, ← suggest_run_ok hsuggest]
      cases suggested with
      | none => cases hm
      | some suggested =>
        rcases call_of_mem_moments (provisionedPath_only contact e code suggested) hm with hquiet | hsame
        · exact absurd hquiet hloud
        · rw [hcall, Call.mappingProvision.injEq] at hsame
          rw [hsame]
  · have hsilent {failure : ServiceError} : (orFail failure path).Only Call.Quiet := only_orFail failure path
    exact absurd (call_of_mem_moments hsilent hm) hloud

/-- provisioning for what is suggested leads to the measurement suggested, joined or new -/
theorem provision_pathFor (s : Store) (id : Uuid) (candidate : Candidate) :
    (s.provision id candidate).1.mapping.pathFor candidate.equipmentCode = candidate.path := by
  obtain ⟨-, hmatches, -⟩ := s.provision_outcome id candidate
  obtain ⟨hdatabase, hmeasurement⟩ := Store.matchesMapping_iff.1 hmatches
  simp only [Mapping.pathFor, Candidate.path, hdatabase, hmeasurement]

theorem checkEnabled_map_ok {m : Mapping} {path path' : Path}
    (h : (checkEnabled contact e code m).map (fun _ => path) = .ok path') : path' = path := by
  unfold checkEnabled at h
  split at h
  · exact (Except.ok.inj h).symm
  · cases h

/-- a path to write to is the destination, through a mapping stored before or provisioned on the way -/
theorem routeWrite_destination {path : Path} (hwrite : ((routeWrite contact e).run w).1 = .ok path) :
    destination w e = some path := by
  obtain ⟨w1, hrun⟩ : ∃ w1, (routeWrite contact e).perform World.surroundings.answer w = (.ok path, w1) :=
    ⟨_, perform_of_fst hwrite⟩
  generalize hresult : (Except.ok path : Except ServiceError Path) = result at hrun
  cases routeWrite_cases World.surroundings hrun with
  | covered code m _ hcode hfound hsame =>
    rw [destination_of_code hcode, destinationOf_covered hfound, checkEnabled_map_ok hresult.symm]
  | provisioned code candidate outcome w2 _ hcode hcandidate hfound hw2 hcall houtcome =>
    obtain ⟨code', hcode', hsuggestion⟩ := provisioned_suggestion hcall rfl
    obtain rfl : code = code' := Option.some.inj (hcode.symm.trans hcode')
    have hpath := provision_pathFor w.mappings (World.surroundings.nextId w2) candidate
    have hmapping : (w.mappings.provision (World.surroundings.nextId w2) candidate).1 = outcome := congrArg Prod.fst houtcome
    rw [hmapping, hcandidate] at hpath
    rw [destination_of_code hcode, destinationOf_uncovered hfound, hsuggestion, Option.map_some,
      checkEnabled_map_ok hresult.symm, hpath]
  | refused failure _ hsame => cases hresult

/-! ## No operation moves a destination -/

/-- equipment of one equipment code is of one brand and one technology -/
def SharesClass (e e' : Equipment) : Prop :=
  ∀ code, e.equipmentCode = some code → e'.equipmentCode = some code →
    e.brandCode = e'.brandCode ∧ e.technologyCode = e'.technologyCode

instance (e e' : Equipment) : Decidable (SharesClass e e') :=
  inferInstanceAs (Decidable (∀ code ∈ e.equipmentCode, e'.equipmentCode = some code →
    e.brandCode = e'.brandCode ∧ e.technologyCode = e'.technologyCode))

/-- provisioning a mapping for one equipment moves no equipment that is classified as the claim of the code has it -/
theorem destination_provision {e' : Equipment} {candidate : Candidate} {id : Uuid}
    (hshares : SharesClass e e') (hcode : e'.equipmentCode = some code) (hsuggestion : suggestion w e' code = some candidate)
    (hnone : w.mappings.get? (.equipmentCode code) = none) (hnodes : w1.nodes = w.nodes)
    (hmappings : w1.mappings = (w.mappings.provision id candidate).2) : destination w1 e = destination w e := by
  have hcandidate := suggestion_equipmentCode hsuggestion
  rcases hown : e.equipmentCode with _ | own
  · simp only [destination, hown, Option.bind_none]
  rw [destination_of_code hown, destination_of_code hown]
  by_cases hsame : own = code
  · -- the same code: it was uncovered, and is now covered by a mapping of the measurement suggested
    subst hsame
    obtain ⟨hbrand, htechnology⟩ := hshares own hown hcode
    have hstored : w1.mappings.get? (.equipmentCode own) = some (w.mappings.provision id candidate).1.mapping := by
      rw [hmappings, ← hcandidate]
      rw [← hcandidate] at hnone
      exact Store.provision_get?_outcome id hnone
    have hpath := provision_pathFor w.mappings id candidate
    rw [hcandidate] at hpath
    rw [destinationOf_covered hstored, destinationOf_uncovered hnone, suggestion_shared hbrand htechnology, hsuggestion,
      Option.map_some, hpath]
  · have hother : own ≠ candidate.equipmentCode := by rwa [hcandidate]
    rcases hfound : w.mappings.get? (.equipmentCode own) with _ | m
    · have hstill : w1.mappings.get? (.equipmentCode own) = none := by
        rw [hmappings]
        exact Store.provision_get?_uncovered hother hfound
      rw [destinationOf_uncovered hstill, destinationOf_uncovered hfound, suggestion_congr hnodes]
    · obtain ⟨m', hm', hext, -⟩ : ∃ m', (w.mappings.provision id candidate).2.get? (.equipmentCode own) = some m' ∧
          m.Extends m' ∧ m'.status = m.status := Store.provision_get? hother hfound
      rw [← hmappings] at hm'
      rw [destinationOf_covered hm', destinationOf_covered hfound]
      simp only [Mapping.pathFor, hext.database, hext.measurement]

/-- storing the first mapping that covers a code with another status moves nothing -/
theorem destination_storeStatus {m : Mapping} {status : Status} (hids : (w.mappings.map (·.id)).Nodup)
    (hfound : w.mappings.get? (.equipmentCode code) = some m) (hnodes : w1.nodes = w.nodes)
    (hmappings : w1.mappings = w.mappings.upsert { m with status }) (e : Equipment) :
    destination w1 e = destination w e := by
  obtain ⟨s1, s2, hsplit⟩ := List.append_of_mem (Store.get?_equipmentCode_eq_some hfound).1
  have hput : w.mappings.upsert { m with status } = s1 ++ { m with status } :: s2 := by
    rw [hsplit] at hids ⊢
    exact Store.upsert_of_mem rfl (Store.id_ne_of_nodup hids)
  unfold destination
  congr 1
  funext own
  have hcovers : Mapping.covers { m with status } own = m.covers own := rfl
  rcases Store.get?_replace s1 s2 hcovers with hsame | ⟨hold, hnew⟩
  · rw [destinationOf, destinationOf, hmappings, hput, hsame, ← hsplit, suggestion_congr hnodes]
  · rw [← hsplit] at hold
    rw [← hput, ← hmappings] at hnew
    rw [destinationOf_covered hold, destinationOf_covered hnew]
    rfl

/-- the equipment that an operation asks a path for -/
def Operation.equipment? : Operation → Option Equipment
  | .routeRead e | .routeWrite e => some e
  | .setStatus .. => none

/-- asking for a path to write to moves no equipment that is classified like the one it is asked for -/
theorem destination_routeWrite {e' : Equipment} {result : Except ServiceError Path} {w1 : World.surroundings.State}
    (hrun : (routeWrite contact e').perform World.surroundings.answer w = (result, w1)) (hshares : SharesClass e e') :
    destination w1 e = destination w e := by
  have hnodes : World.nodes w1 = w.nodes := by
    have := (World.run_fixed (routeWrite contact e') w).1
    rwa [← World.perform_surroundings, hrun] at this
  cases routeWrite_cases World.surroundings hrun with
  | covered code m _ hcode hfound hsame => exact destination_congr hsame hnodes e
  | refused failure _ hsame => exact destination_congr hsame hnodes e
  | provisioned code candidate outcome w2 _ hcode hcandidate hfound hw2 hcall houtcome =>
    obtain ⟨code', hcode', hsuggestion⟩ := provisioned_suggestion hcall rfl
    obtain rfl : code = code' := Option.some.inj (hcode.symm.trans hcode')
    have hmappings : World.mappings w1 = (w.mappings.provision (World.surroundings.nextId w2) candidate).2 :=
      (congrArg Prod.snd houtcome).symm
    exact destination_provision hshares hcode hsuggestion hfound hnodes hmappings

/-- setting a status moves nothing -/
theorem destination_setStatus {status : Status} {result : Except ServiceError Mapping} {w1 : World.surroundings.State}
    (hrun : (setStatus code status).perform World.surroundings.answer w = (result, w1)) (h : Linked w) (e : Equipment) :
    destination w1 e = destination w e := by
  have hnodes : World.nodes w1 = w.nodes := by
    have := (World.run_fixed (setStatus code status) w).1
    rwa [← World.perform_surroundings, hrun] at this
  cases setStatus_cases World.surroundings hrun with
  | refused failure _ hsame => exact destination_congr hsame hnodes e
  | stored m _ hfound hstored => exact destination_storeStatus h.ids hfound hnodes hstored e

/-- an operation, successful or not, leaves every destination where it is -/
theorem destination_action (h : Linked w) (op : Operation) (hshares : ∀ e' ∈ op.equipment?, SharesClass e e') :
    destination ((op.action contact).run w).2 e = destination w e := by
  cases op with
  | routeRead e' =>
    have hquiet : (Operation.action contact (.routeRead e')).Only Call.Quiet :=
      only_bind (routeRead_quiet contact e') fun _ => only_pure _
    exact destination_congr (quiet_mappings World.surroundings hquiet rfl) (World.run_fixed _ w).1 e
  | routeWrite e' =>
    simp only [Operation.action, World.run_bind_pure]
    exact destination_routeWrite rfl (hshares e' rfl)
  | setStatus code status =>
    simp only [Operation.action, World.run_bind_pure]
    exact destination_setStatus rfl h e

/-- a run leaves the destination of equipment that is classified like all of its code in the run -/
theorem destination_runAll (ops : List Operation) (h : Linked w) (hfresh : DrawsFreshIds contact ops w)
    (hshares : ∀ e' ∈ ops.filterMap Operation.equipment?, SharesClass e e') :
    destination (runAll contact ops w) e = destination w e := by
  induction ops generalizing w with
  | nil => rfl
  | cons op ops ih =>
    obtain ⟨hop, hops⟩ := List.forall_mem_append.1 hfresh
    have hfirst : ∀ e' ∈ op.equipment?, SharesClass e e' :=
      fun e' he' => hshares e' (List.mem_filterMap.2 ⟨op, List.mem_cons_self, he'⟩)
    have hrest : ∀ e' ∈ ops.filterMap Operation.equipment?, SharesClass e e' := by
      intro e' he'
      obtain ⟨op', hop', he'⟩ := List.mem_filterMap.1 he'
      exact hshares e' (List.mem_filterMap.2 ⟨op', List.mem_cons_of_mem op hop', he'⟩)
    have hstep : destination ((op.action contact).run w).2 e = destination w e := destination_action h op hfirst
    exact (ih (linked_action contact op h hop) hops hrest).trans hstep

/-! ## Resolutions in a run -/

/-- the operation asks for a path of the equipment and is answered, a read perhaps with none -/
inductive Operation.Resolves (contact : String) (w : World) (e : Equipment) : Operation → Option Path → Prop
  | read {found : Option Path} (h : ((Storage.routeRead contact e).run w).1 = .ok found) :
      Resolves contact w e (.routeRead e) found
  | write {path : Path} (h : ((Storage.routeWrite contact e).run w).1 = .ok path) :
      Resolves contact w e (.routeWrite e) (some path)

theorem Operation.Resolves.equipment {op : Operation} {found : Option Path} (h : op.Resolves contact w e found) :
    op.equipment? = some e := by
  cases h <;> rfl

theorem Operation.Resolves.destination {op : Operation} {found : Option Path} (h : op.Resolves contact w e found)
    (hw : Linked w) : found = destination w e := by
  cases h with
  | read hread => exact routeRead_destination hw hread
  | write hwrite => exact (routeWrite_destination hwrite).symm

/-- equipment of one code, one brand and one technology has one destination -/
theorem destination_shared {e' : Equipment} (hcode : e'.equipmentCode = e.equipmentCode) (hshares : SharesClass e e') :
    destination w e' = destination w e := by
  rcases hown : e.equipmentCode with _ | code
  · simp only [destination, hcode, hown, Option.bind_none]
  · obtain ⟨hbrand, htechnology⟩ := hshares code hown (hcode.trans hown)
    rw [destination_of_code hown, destination_of_code (hcode.trans hown), destinationOf, destinationOf,
      suggestion_shared hbrand.symm htechnology.symm]

/-- the equipment of a run is classified alike, where it is of one equipment code -/
def ClassifiedAlike (ops : List Operation) : Prop :=
  ∀ e ∈ ops.filterMap Operation.equipment?, ∀ e' ∈ ops.filterMap Operation.equipment?, SharesClass e e'

instance (ops : List Operation) : Decidable (ClassifiedAlike ops) :=
  inferInstanceAs (Decidable (∀ e ∈ ops.filterMap Operation.equipment?, ∀ e' ∈ ops.filterMap Operation.equipment?,
    SharesClass e e'))

/-- up to any point of a run, the destination of equipment that the run asks for is what it was -/
theorem destination_throughout {before after : List Operation} (h : Linked w)
    (hfresh : DrawsFreshIds contact (before ++ after) w) (hclasses : ClassifiedAlike (before ++ after))
    (he : e ∈ (before ++ after).filterMap Operation.equipment?) :
    Linked (runAll contact before w) ∧ destination (runAll contact before w) e = destination w e := by
  have hbefore : DrawsFreshIds contact before w := by
    intro m hm
    refine hfresh m ?_
    rw [List.map_append, momentsAll_append]
    exact List.mem_append_left _ hm
  have hshares : ∀ e' ∈ before.filterMap Operation.equipment?, SharesClass e e' := by
    intro e' he'
    refine hclasses e he e' ?_
    rw [List.filterMap_append]
    exact List.mem_append_left _ he'
  exact ⟨linked_runAll contact before h hbefore, destination_runAll before h hbefore hshares⟩

theorem mem_equipment {before after : List Operation} {op : Operation} {found : Option Path}
    (hresolves : op.Resolves contact w e found) : e ∈ (before ++ op :: after).filterMap Operation.equipment? :=
  List.mem_filterMap.2 ⟨op, List.mem_append_right _ List.mem_cons_self, hresolves.equipment⟩

/-- a resolution at any point of a run finds the destination that the equipment has from the beginning -/
theorem resolves_destination {before after : List Operation} {op : Operation} {found : Option Path} (h : Linked w)
    (hfresh : DrawsFreshIds contact (before ++ op :: after) w) (hclasses : ClassifiedAlike (before ++ op :: after))
    (hresolves : op.Resolves contact (runAll contact before w) e found) : found = destination w e := by
  obtain ⟨hlinked, hsame⟩ := destination_throughout h hfresh hclasses (mem_equipment hresolves)
  exact (hresolves.destination hlinked).trans hsame

/-- **Routes never split.** Take any run of operations from a store without repeated ids and from a cache that holds nothing,
where the ids of new mappings are new and equipment of one equipment code is of one brand and one technology; collaborators
may fail and cached mappings may expire whenever they like. Any two resolutions of an equipment, or of two of one code, at
any two points of the run, reads or writes, agree, and so does the mapping that is the first to cover the code, at any point:
the path read before there was a mapping is the one of the mapping that is provisioned. -/
theorem routes_never_split (contact : String) (ops : List Operation) (w : World)
    (hcache : ∀ code m, ¬ w.mappingCache.Holds code m) (hids : (w.mappings.map (·.id)).Nodup)
    (hfresh : DrawsFreshIds contact ops w) (hclasses : ClassifiedAlike ops) :
    ∀ before op after e found, ops = before ++ op :: after →
      op.Resolves contact (runAll contact before w) e found →
      (∀ before' op' after' e' found', ops = before' ++ op' :: after' →
        op'.Resolves contact (runAll contact before' w) e' found' → e'.equipmentCode = e.equipmentCode → found' = found) ∧
      ∀ before' after' code m, ops = before' ++ after' → e.equipmentCode = some code →
        (runAll contact before' w).mappings.get? (.equipmentCode code) = some m → found = some (m.pathFor code) := by
  rintro before op after e found rfl hresolves
  have hw : Linked w := ⟨hids, fun code m hm => (hcache code m hm).elim⟩
  have hmem : e ∈ (before ++ op :: after).filterMap Operation.equipment? := mem_equipment hresolves
  have hfound := resolves_destination hw hfresh hclasses hresolves
  refine ⟨fun before' op' after' e' found' hops hresolves' hcode => ?_, fun before' after' code m hops hcode hm => ?_⟩
  · have hmem' : e' ∈ (before ++ op :: after).filterMap Operation.equipment? := hops ▸ mem_equipment hresolves'
    calc found' = destination w e' := resolves_destination hw (hops ▸ hfresh) (hops ▸ hclasses) hresolves'
      _ = destination w e := destination_shared hcode (hclasses e hmem e' hmem')
      _ = found := hfound.symm
  · obtain ⟨-, hsame⟩ := destination_throughout hw (hops ▸ hfresh) (hops ▸ hclasses) (hops ▸ hmem)
    calc found = destination w e := hfound
      _ = destination (runAll contact before' w) e := hsame.symm
      _ = some (m.pathFor code) := by rw [destination_of_code hcode, destinationOf_covered hm]

/-! ## A run in a world -/

/-- the pump is read before it has a mapping, again when its mapping has been cached and has expired, and written to -/
def pumpRouted : List Operation := .routeRead pump :: (pumpsRun ++ [.routeRead pump, .routeWrite pump])

/-- the suggested path is that of the mapping provisioned, of the read after what was cached has expired, and of the write -/
theorem routes_never_split_pump :
    let s := runAll "ops" (pumpRouted.take 5) cachingPlant
    (Operation.routeRead pump).Resolves "ops" cachingPlant pump (some ⟨"PUMP", "ACME", "E1"⟩) ∧
      (runAll "ops" (pumpRouted.take 1) cachingPlant).mappings.get? (.equipmentCode "E1") = none ∧
      (runAll "ops" (pumpRouted.take 2) cachingPlant).mappings.get? (.equipmentCode "E1") = some pumpMapping ∧
      pumpMapping.pathFor "E1" = ⟨"PUMP", "ACME", "E1"⟩ ∧
      s.mappingCache.Holds "E1" { pumpMapping with status := .enabled } ∧ (s.mappingCache.get "E1").1 = none ∧
      (∃ path, (Operation.routeRead pump).Resolves "ops" s pump (some path) ∧ path = ⟨"PUMP", "ACME", "E1"⟩) ∧
      ∃ path, (Operation.routeWrite pump).Resolves "ops" (runAll "ops" (pumpRouted.take 6) cachingPlant) pump (some path) ∧
        path = ⟨"PUMP", "ACME", "E1"⟩ := by
  intro s
  have hids : (cachingPlant.mappings.map (·.id)).Nodup := by decide +kernel
  have hfresh : DrawsFreshIds "ops" pumpRouted cachingPlant := by decide +kernel
  have hclasses : ClassifiedAlike pumpRouted := by decide +kernel
  have hread : (Operation.routeRead pump).Resolves "ops" cachingPlant pump (some ⟨"PUMP", "ACME", "E1"⟩) :=
    .read (by decide +kernel)
  have hprovisioned : (runAll "ops" (pumpRouted.take 2) cachingPlant).mappings.get? (.equipmentCode "E1") =
      some pumpMapping := by decide +kernel
  have hexpired : s.mappingCache.Holds "E1" { pumpMapping with status := .enabled } ∧ (s.mappingCache.get "E1").1 = none := by
    decide +kernel
  have hagain : (Operation.routeRead pump).Resolves "ops" s pump (some ⟨"PUMP", "ACME", "E1"⟩) := .read (by decide +kernel)
  have hwrite : (Operation.routeWrite pump).Resolves "ops" (runAll "ops" (pumpRouted.take 6) cachingPlant) pump
      (some ⟨"PUMP", "ACME", "E1"⟩) := .write (by decide +kernel)
  obtain ⟨hagree, hstored⟩ := routes_never_split "ops" pumpRouted cachingPlant
    (fun code m => ReadCache.not_holds_empty _ _ code m) hids hfresh hclasses [] _ _ pump _ rfl hread
  have hpath := hstored (pumpRouted.take 2) (pumpRouted.drop 2) "E1" pumpMapping rfl (by decide +kernel) hprovisioned
  have hreads := hagree (pumpRouted.take 5) _ [.routeWrite pump] pump _ rfl hagain rfl
  have hwrites := hagree (pumpRouted.take 6) _ [] pump _ rfl hwrite rfl
  exact ⟨hread, by decide +kernel, hprovisioned, (Option.some.inj hpath).symm, hexpired.1, hexpired.2,
    ⟨_, hagain, Option.some.inj hreads⟩, _, hwrite, Option.some.inj hwrites⟩

end Telemetry.Storage
