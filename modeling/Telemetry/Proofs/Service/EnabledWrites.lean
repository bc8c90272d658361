import Telemetry.Proofs.Service.Plan
import Telemetry.Proofs.Storage.Growth
/-
Runs of the service: points are only ever written through an enabled mapping.

A path may be settled long before the points are written to it: in a payload for several equipments every path is asked for
first, and later paths still change the store. What carries over is that the calls in between keep every mapping together
with its status (`Writable.kept`).

- `routeWrite_writable`: a path to write to is writable when it is given;
- `planGroups_writable`: all of them are when the last one is given;
- `writes_enabled`: at each write of a run, through any operations, the path is writable.
-/
namespace Telemetry

open Program

/-! ## Writable paths -/

namespace Storage

/-- a stored mapping of the path's measurement is enabled and covers the path's equipment code -/
def Writable (store : Store) (path : Path) : Prop :=
  ∃ m ∈ store, m.database = path.database ∧ m.measurement = path.measurement ∧ m.status = .enabled ∧
    path.equipmentCode ∈ m.equipmentCodes

theorem Writable.provision {store : Store} {path : Path} (h : Writable store path) (id : Uuid) (c : Candidate) :
    Writable (store.provision id c).2 path := by
  obtain ⟨m, hm, hdatabase, hmeasurement, henabled, hcode⟩ := h
  obtain ⟨m', hm', hext, hstatus⟩ := Store.provision_retains hm id c
  exact ⟨m', hm', hext.database.trans hdatabase, hext.measurement.trans hmeasurement, hstatus.trans henabled,
    hext.equipmentCodes.subset hcode⟩

/-- a mapping that is not refused makes its paths writable -/
theorem writable_of_checkEnabled {store : Store} {contact code code' : String} {e : Equipment} {m : Mapping}
    (hm : m ∈ store) (hcode : code' ∈ m.equipmentCodes) (h : checkEnabled contact e code m = .ok ()) :
    Writable store (m.pathFor code') := by
  refine ⟨m, hm, rfl, rfl, ?_, hcode⟩
  unfold checkEnabled at h
  split_ifs at h with henabled
  simpa [Mapping.isEnabled] using henabled

section

variable (S : MappingSurroundings)

/-- a call that at most provisions a mapping keeps a path writable -/
theorem Writable.kept {path : Path} (s : S.State) (c : Call) (hc : Provisions c)
    (h : Writable (S.mappings s) path) : Writable (S.mappings (S.answer s c).2) path := by
  rcases hc with hquiet | ⟨candidate, rfl⟩
  · rw [S.mappings_kept s c (hquiet.keeps .mappings)]
    exact h
  · rcases hr : S.answer s (.mappingProvision candidate) with ⟨e | outcome, s'⟩
    · rw [S.mapping_not_provisioned hr]
      exact h
    · have hstore := h.provision (S.nextId s) candidate
      rw [S.mapping_provisioned hr] at hstore
      exact hstore

/-- a path to write to is writable when it is given -/
theorem routeWrite_writable {contact : String} {e : Equipment} {path : Path} {s s' : S.State}
    (h : (routeWrite contact e).perform S.answer s = (.ok path, s')) : Writable (S.mappings s') path := by
  generalize hr : (Except.ok path : Except ServiceError Path) = r at h
  cases routeWrite_cases S h with
  | covered code m _ hcode hfound hs =>
    cases hcheck : checkEnabled contact e code m with
    | error failure => rw [hcheck] at hr; cases hr
    | ok u =>
      rw [hcheck] at hr; cases hr
      obtain ⟨hmem, hcovers⟩ := Store.get?_equipmentCode_eq_some hfound
      rw [hs]
      exact writable_of_checkEnabled hmem hcovers hcheck
  | provisioned code candidate outcome s1 _ hcode hcandidate hfound hs1 hcall houtcome =>
    cases hcheck : checkEnabled contact e code outcome.mapping with
    | error failure => rw [hcheck] at hr; cases hr
    | ok u =>
      rw [hcheck] at hr; cases hr
      obtain ⟨hmem, -, hcovers⟩ := Store.provision_outcome (S.mappings s) (S.nextId s1) candidate
      rw [houtcome] at hmem hcovers
      rw [hcandidate] at hcovers
      exact writable_of_checkEnabled hmem hcovers hcheck
  | refused failure _ hs => cases hr

end

end Storage

namespace Service

open Storage (Writable Provisions)

/-! ## Plans -/

variable (S : MappingSurroundings)

/-- every settled path is writable when the last one is given -/
theorem planGroups_writable (service : Service) {groups : List (Equipment × List Point)} {planned : List Planned}
    {s s' : S.State} (h : (service.planGroups groups).perform S.answer s = (.ok planned, s')) :
    ∀ p ∈ planned, ∀ path, p.path = some path → Writable (S.mappings s') path := by
  induction groups generalizing s planned with
  | nil => cases h; simp
  | cons group groups ih =>
    rw [planGroups_cons] at h
    obtain ⟨path?, s1, hpath, hrest⟩ := perform_bind_ok.1 h
    obtain ⟨rest, s2, hplan, hdone⟩ := perform_bind_ok.1 hrest
    cases hdone
    intro p hp path hsome
    rcases List.mem_cons.1 hp with rfl | hp
    · -- the path of this group was given first; the other groups keep it writable
      have hgiven : Writable (S.mappings s1) path := by
        unfold settle at hpath
        split_ifs at hpath with hempty
        · cases hpath; cases hsome
        · obtain ⟨given, s3, hroute, hpure⟩ := perform_bind_ok.1 hpath
          cases hpure; cases hsome
          exact Storage.routeWrite_writable S hroute
      have hkept := perform_invariant (I := fun t => Writable (S.mappings t) path)
        (fun t c hc ht => Writable.kept S t c hc ht) (service.planGroups_only groups) hgiven
      rwa [hplan] at hkept
    · exact ih hplan p hp path hsome

/-! ## Guarded programs -/

/-- every write of the program is to a path that is writable when it is made -/
def Guarded {α : Type} (p : Action α) (s : S.State) : Prop :=
  ∀ m ∈ p.moments S.answer s, ∀ path wkeid points, m.call = .historianWrite path wkeid points →
    Writable (S.mappings m.state) path

variable {S}

theorem guarded_of_only {α : Type} {p : Action α} (hp : p.Only fun c => c.changes ≠ some .writes) (s : S.State) :
    Guarded S p s := by
  intro m hm path wkeid points hcall
  have hkeeps := call_of_mem_moments hp hm
  rw [hcall] at hkeeps
  exact absurd rfl hkeeps

theorem guarded_of_quiet {α : Type} {p : Action α} (hp : p.Only Call.Quiet) (s : S.State) : Guarded S p s :=
  guarded_of_only (only_mono (fun _ hc => hc.keeps .writes) hp) s

theorem guarded_of_provisions {α : Type} {p : Action α} (hp : p.Only Provisions) (s : S.State) : Guarded S p s :=
  guarded_of_only (only_mono (fun _ hc => hc.keeps_writes) hp) s

theorem guarded_bind {α β : Type} {p : Action α} {f : α → Action β} {s : S.State} (hp : Guarded S p s)
    (hf : ∀ a s1, p.perform S.answer s = (.ok a, s1) → Guarded S (f a) s1) : Guarded S (p >>= f) s := by
  intro m hm
  rcases mem_moments_bind hm with hm | ⟨a, s1, ha, hm⟩
  · exact hp m hm
  · exact hf a s1 ha m hm

theorem guarded_store {wkeid : String} {path : Storage.Path} {points : List Point} {s : S.State}
    (h : Writable (S.mappings s) path) : Guarded S (store wkeid path points) s := by
  refine guarded_bind (fun m hm path' wkeid' points' hcall => ?_) fun u s1 _ => guarded_of_quiet (only_pure _) s1
  unfold Historian.write at hm
  rcases List.mem_cons.1 hm with rfl | hm
  · cases hcall; exact h
  · have hquiet : Call.Quiet m.call := call_of_mem_moments (only_historianAnswer _) hm
    rw [hcall] at hquiet
    cases hquiet

/-- plans with writable paths are stored through enabled mappings: storing leaves the mappings alone -/
theorem guarded_storePlanned {ps : List Planned} {s : S.State}
    (h : ∀ p ∈ ps, ∀ path, p.path = some path → Writable (S.mappings s) path) : Guarded S (storePlanned ps) s := by
  intro m hm path wkeid points hcall
  obtain ⟨hsame, p, hp, path', hpath, hstores⟩ := moments_invariant (I := fun t => S.mappings t = S.mappings s)
    (fun t c hc ht => (S.mappings_kept t c hc.keeps_mappings).trans ht) (storePlanned_only ps) rfl m hm
  rw [hcall] at hstores
  cases hstores
  rw [hsame]
  exact h p hp path hpath

theorem guarded_write (service : Service) (wkeid : String) (payload : Payload.Single) (s : S.State) :
    Guarded S (service.write wkeid payload) s := by
  refine guarded_bind (guarded_of_quiet (equipmentFor_quiet wkeid) s) fun equipment s1 _ => ?_
  refine guarded_bind (guarded_of_quiet (only_mapError (only_ofExcept _)) s1) fun parsed s2 _ => ?_
  refine guarded_bind (guarded_of_quiet (Payload.points_quiet parsed) s2) fun points s3 _ => ?_
  split
  · exact guarded_of_quiet (only_pure _) s3
  · refine guarded_bind (guarded_of_provisions (Storage.routeWrite_only _ _) s3) fun path s4 hroute => ?_
    exact guarded_store (Storage.routeWrite_writable S hroute)

theorem guarded_writeBulk (service : Service) (payload : Payload.Bulk) (s : S.State) :
    Guarded S (service.writeBulk payload) s := by
  refine guarded_bind (guarded_of_quiet (only_mapError (only_ofExcept _)) s) fun parsed s1 _ => ?_
  refine guarded_bind (guarded_of_quiet (Channel.resolve_quiet _) s1) fun channels s2 _ => ?_
  refine guarded_bind (guarded_of_quiet (mapGroups_quiet _ _) s2) fun mapped s3 _ => ?_
  refine guarded_bind (guarded_of_provisions (service.planGroups_only mapped) s3) fun planned s4 hplan => ?_
  exact guarded_storePlanned (service.planGroups_writable S hplan)

theorem setStatus_keeps_writes (code : String) (status : Storage.Status) :
    (Storage.setStatus code status).Only fun c => c.changes ≠ some .writes := by
  refine only_bind (only_step (by simp [Call.changes]) only_repositoryAnswer) fun found => ?_
  refine only_bind (only_orFail _ _) fun m => ?_
  refine only_bind (only_step (by simp [Call.changes]) only_repositoryAnswer) fun stored => ?_
  refine only_bind ?_ fun _ => only_pure _
  exact only_mono (fun _ hc => hc.keeps .writes) (Storage.evictAll_quiet _)

/-! ## Operations -/

/-- an operation of the service -/
inductive Operation where
  | write (wkeid : String) (payload : Payload.Single)
  | writeBulk (payload : Payload.Bulk)
  | read (request : ReadRequest)
  | readMath (request : MathRequest)
  | latest (wkeid : String)
  | fields (wkeid : String)
  | setStatus (equipmentCode : String) (status : Storage.Status)
  | listMappings

def Operation.action (service : Service) : Operation → Action Unit
  | .write wkeid payload => do let _ ← service.write wkeid payload
  | .writeBulk payload => do let _ ← service.writeBulk payload
  | .read request => do let _ ← service.read request
  | .readMath request => do let _ ← service.readMath request
  | .latest wkeid => do let _ ← service.latest wkeid
  | .fields wkeid => do let _ ← service.fields wkeid
  | .setStatus equipmentCode status => do let _ ← Storage.setStatus equipmentCode status
  | .listMappings => do let _ ← Storage.list

theorem guarded_action (service : Service) (op : Operation) (s : S.State) : Guarded S (op.action service) s := by
  cases op with
  | write wkeid payload =>
    exact guarded_bind (guarded_write service wkeid payload s) fun _ s1 _ => guarded_of_quiet (only_pure _) s1
  | writeBulk payload =>
    exact guarded_bind (guarded_writeBulk service payload s) fun _ s1 _ => guarded_of_quiet (only_pure _) s1
  | read request => exact guarded_of_quiet (only_bind (service.read_quiet request) fun _ => only_pure _) s
  | readMath request => exact guarded_of_quiet (only_bind (service.readMath_quiet request) fun _ => only_pure _) s
  | latest wkeid => exact guarded_of_quiet (only_bind (service.latest_quiet wkeid) fun _ => only_pure _) s
  | fields wkeid => exact guarded_of_quiet (only_bind (service.fields_quiet wkeid) fun _ => only_pure _) s
  | setStatus equipmentCode status =>
    exact guarded_of_only (only_bind (setStatus_keeps_writes equipmentCode status) fun _ => only_pure _) s
  | listMappings =>
    exact guarded_of_quiet (only_bind Storage.list_quiet fun _ => only_pure _) s

/-- **Points are written through enabled mappings only.** Take any run of operations of the service from any state, in
surroundings of any behaviour: whatever the caches hold, whichever calls fail. At the moment of every write that the run asks
the historian for, accepted or not, a stored mapping of the path's database and measurement is enabled and covers the path's
equipment code. -/
theorem writes_enabled (S : MappingSurroundings) (service : Service) (ops : List Operation) (s : S.State) :
    ∀ m ∈ momentsAll S.answer (ops.map (·.action service)) s, ∀ path wkeid points,
      m.call = .historianWrite path wkeid points → Writable (S.mappings m.state) path := by
  intro m hm
  obtain ⟨before, p, after, hops, hp⟩ := mem_momentsAll hm
  have hmem : p ∈ ops.map (·.action service) := by rw [hops]; simp
  obtain ⟨op, -, rfl⟩ := List.mem_map.1 hmem
  exact guarded_action service op _ m hp

/-- the first attempt provisions a disabled mapping and fails; the second one is made after it is enabled -/
def enablingRun : List Operation := [.writeBulk loads, .setStatus "E1" .enabled, .writeBulk loads]

/-- the pump's load is written, and its mapping is enabled by then -/
theorem writes_enabled_pump :
    ∃ m ∈ momentsAll World.surroundings.answer (enablingRun.map (·.action ⟨"ops", 24⟩)) plant,
      m.call = .historianWrite ⟨"PUMP", "ACME", "E1"⟩ "M1:S1" [⟨⟨1704067200, 0⟩, [("load.kW", .integer 7)]⟩] ∧
      Writable (World.surroundings.mappings m.state) ⟨"PUMP", "ACME", "E1"⟩ := by
  have hwritten : ∃ m ∈ momentsAll World.surroundings.answer (enablingRun.map (·.action ⟨"ops", 24⟩)) plant,
      m.call = .historianWrite ⟨"PUMP", "ACME", "E1"⟩ "M1:S1" [⟨⟨1704067200, 0⟩, [("load.kW", .integer 7)]⟩] := by
    decide +kernel
  obtain ⟨m, hm, hcall⟩ := hwritten
  exact ⟨m, hm, hcall, writes_enabled World.surroundings ⟨"ops", 24⟩ enablingRun plant m hm _ _ _ hcall⟩

end Service

end Telemetry
