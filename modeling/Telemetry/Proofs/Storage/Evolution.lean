import Telemetry.Proofs.Storage.Growth
import Telemetry.Proofs.Storage.Routing
/-
Runs of routing: the invariant of the mapping store, and how mappings evolve.

An `Operation` asks for a path to read from or to write to, or sets a status; a run is a list of them, each performed
whether the ones before it succeed or fail, in surroundings of any behaviour. A stored mapping keeps its place in the list
of mappings, so what becomes of it is read off its place.

- `provision_step`, `setStatus_step`: what a provisioned candidate and a changed status do to the store;
- `action_step`: what one operation does to the store;
- `routing_run`: the invariant holds at every point of a run, and every operation of it is a step of `Store.Evolves`.

The ids that are generated are taken to be new: `MappingSurroundings.DrawsFresh` says so of a single call.
-/
namespace Telemetry

def Call.candidate? : Call → Option Storage.Candidate
  | .mappingProvision candidate => some candidate
  | _ => none

theorem Call.candidate?_eq_some {c : Call} {candidate : Storage.Candidate} :
    c.candidate? = some candidate ↔ c = .mappingProvision candidate := by
  cases c <;> simp [Call.candidate?]

/-- if the call makes a new mapping, then under an id that no stored mapping has -/
def MappingSurroundings.DrawsFresh (S : MappingSurroundings) (m : Program.Moment S.State) : Prop :=
  ∀ candidate, m.call = .mappingProvision candidate →
    (∀ stored ∈ S.mappings m.state, candidate.matchesMapping stored = false) →
    ∀ stored ∈ S.mappings m.state, stored.id ≠ S.nextId m.state

instance (S : MappingSurroundings) (m : Program.Moment S.State) : Decidable (S.DrawsFresh m) :=
  decidable_of_iff
    (∀ candidate ∈ m.call.candidate?, (∀ stored ∈ S.mappings m.state, candidate.matchesMapping stored = false) →
      ∀ stored ∈ S.mappings m.state, stored.id ≠ S.nextId m.state)
    (forall_congr' fun candidate => by rw [Option.mem_def, Call.candidate?_eq_some])

namespace Storage

open Program

/-! ## Operations and what they may do -/

/-- an operation on routes -/
inductive Operation where
  | routeRead (e : Equipment)
  | routeWrite (e : Equipment)
  | setStatus (equipmentCode : String) (status : Status)

def Operation.action (contact : String) : Operation → Action Unit
  | .routeRead e => do let _ ← Storage.routeRead contact e
  | .routeWrite e => do let _ ← Storage.routeWrite contact e
  | .setStatus equipmentCode status => do let _ ← Storage.setStatus equipmentCode status

/-- what an operation may do to a stored mapping: extend it, and change its status if it sets that of one of its codes -/
structure Mapping.Evolves (op : Operation) (old new : Mapping) : Prop extends old.Extends new where
  status : new.status = old.status ∨
    ∃ code status, op = .setStatus code status ∧ code ∈ old.equipmentCodes ∧ new.status = status

/-- a mapping as it first appears: disabled, with one code -/
def Mapping.IsNew (m : Mapping) : Prop := m.status = .disabled ∧ ∃ code, m.equipmentCodes = [code]

namespace Store

/-- every mapping of the earlier store is in its place in the later one, extended -/
def Extends (s t : Store) : Prop :=
  ∀ (i : Nat) (m : Mapping), s[i]? = some m → ∃ m', t[i]? = some m' ∧ m.Extends m'

/-- what an operation may do to the store: every mapping evolves in its place, and places added hold new mappings -/
structure Evolves (op : Operation) (s t : Store) : Prop where
  kept : ∀ (i : Nat) (m : Mapping), s[i]? = some m → ∃ m', t[i]? = some m' ∧ m.Evolves op m'
  added : ∀ (i : Nat) (m' : Mapping), t[i]? = some m' → s[i]? = none → m'.IsNew

theorem Extends.refl (s : Store) : s.Extends s := fun _ m hm => ⟨m, hm, Mapping.Extends.refl m⟩

theorem Extends.trans {s t u : Store} (h1 : s.Extends t) (h2 : t.Extends u) : s.Extends u := by
  intro i m hm
  obtain ⟨m1, hm1, hext1⟩ := h1 i m hm
  obtain ⟨m2, hm2, hext2⟩ := h2 i m1 hm1
  exact ⟨m2, hm2, hext1.trans hext2⟩

theorem Evolves.extends {op : Operation} {s t : Store} (h : s.Evolves op t) : s.Extends t := by
  intro i m hm
  obtain ⟨m', hm', hev⟩ := h.kept i m hm
  exact ⟨m', hm', hev.toExtends⟩

theorem Evolves.refl (op : Operation) (s : Store) : s.Evolves op s := by
  refine ⟨fun i m hm => ⟨m, hm, Mapping.Extends.refl m, Or.inl rfl⟩, fun i m hm hno => ?_⟩
  rw [hm] at hno
  cases hno

/-- one mapping evolves and the others stay -/
theorem Evolves.replace {op : Operation} {s1 s2 : Store} {m m' : Mapping} (h : m.Evolves op m') :
    Evolves op (s1 ++ m :: s2) (s1 ++ m' :: s2) := by
  refine ⟨fun i n hn => ?_, fun i n hn hno => ?_⟩
  · rcases Nat.lt_trichotomy i s1.length with hi | rfl | hi
    · rw [List.getElem?_append_left hi] at hn ⊢
      exact ⟨n, hn, Mapping.Extends.refl n, Or.inl rfl⟩
    · simp only [List.getElem?_append_right (Nat.le_refl _), Nat.sub_self, List.getElem?_cons_zero] at hn ⊢
      cases hn
      exact ⟨m', rfl, h⟩
    · obtain ⟨k, rfl⟩ := Nat.exists_eq_add_of_lt hi
      have hk : s1.length + k + 1 - s1.length = k + 1 := by omega
      rw [List.getElem?_append_right (by omega), hk, List.getElem?_cons_succ] at hn ⊢
      exact ⟨n, hn, Mapping.Extends.refl n, Or.inl rfl⟩
  · have hlt := (List.getElem?_eq_some_iff.1 hn).1
    have hge := List.getElem?_eq_none_iff.1 hno
    simp only [List.length_append, List.length_cons] at hlt hge
    omega

/-- a new mapping appears and the others stay -/
theorem Evolves.append {s : Store} {m : Mapping} (op : Operation) (h : m.IsNew) : s.Evolves op (s ++ [m]) := by
  refine ⟨fun i n hn => ?_, fun i n hn hno => ?_⟩
  · have hi := (List.getElem?_eq_some_iff.1 hn).1
    exact ⟨n, by rw [List.getElem?_append_left hi, hn], Mapping.Extends.refl n, Or.inl rfl⟩
  · have hge := List.getElem?_eq_none_iff.1 hno
    rw [List.getElem?_append_right hge] at hn
    have hn' := List.mem_of_getElem? hn
    rw [List.mem_singleton] at hn'
    subst hn'
    exact h

end Store

/-! ## One operation -/

section Run

variable (S : MappingSurroundings) (contact : String)

/-- provisioning for a code that nothing covers is a step that keeps the invariant -/
theorem provision_step {store : Store} (h : store.WellFormed) (op : Operation) {id : Uuid} {candidate : Candidate}
    (hcode : ∀ m ∈ store, candidate.equipmentCode ∉ m.equipmentCodes)
    (hid : (∀ m ∈ store, candidate.matchesMapping m = false) → ∀ m ∈ store, m.id ≠ id) :
    Store.WellFormed (store.provision id candidate).2 ∧ store.Evolves op (store.provision id candidate).2 := by
  rcases store.provision_cases id candidate with ⟨s1, m, s2, rfl, -, hp⟩ | ⟨hno, hp⟩
  · rw [hp]
    have hm : candidate.equipmentCode ∉ m.equipmentCodes := hcode m (by simp)
    have hcodes := Mapping.join_of_not_mem hm
    refine ⟨h.replace (m.extends_join _) ?_ ?_, .replace ⟨m.extends_join _, Or.inl (m.join_status _)⟩⟩
    · rw [hcodes, List.nodup_append]
      refine ⟨h.codes_nodup m (by simp), by simp, fun a ha b hb hab => ?_⟩
      rw [List.mem_singleton] at hb
      rw [hab, hb] at ha
      exact hm ha
    · intro code hc
      rw [hcodes, List.mem_append, List.mem_singleton] at hc
      rcases hc with hc | rfl
      · exact Or.inl hc
      · exact Or.inr hcode
  · rw [hp]
    refine ⟨h.append (hid hno) (fun n hn hdm => ?_) (by simp [Candidate.toMapping]) (by simp [Candidate.toMapping])
      (fun n hn code hc => ?_), .append op ⟨rfl, _, rfl⟩⟩
    · have hmatch : candidate.matchesMapping n = true := Store.matchesMapping_iff.2 hdm
      rw [hno n hn] at hmatch
      cases hmatch
    · simp only [Candidate.toMapping, List.mem_singleton] at hc
      rw [hc]; exact hcode n hn

/-- setting the status of a stored mapping is a step that keeps the invariant -/
theorem setStatus_step {store : Store} (h : store.WellFormed) {code : String} {m : Mapping} (status : Status)
    (hm : store.get? (.equipmentCode code) = some m) :
    Store.WellFormed (store.upsert { m with status }) ∧
      store.Evolves (.setStatus code status) (store.upsert { m with status }) := by
  obtain ⟨hmem, hcode⟩ := Store.get?_equipmentCode_eq_some hm
  obtain ⟨s1, s2, rfl⟩ := List.append_of_mem hmem
  have hupsert : Store.upsert (s1 ++ m :: s2) { m with status } = s1 ++ { m with status } :: s2 :=
    Store.upsert_of_mem rfl h.id_ne
  rw [hupsert]
  refine ⟨h.replace (m.extends_withStatus status) (h.codes_nodup m (by simp)) (fun _ hc => Or.inl hc), ?_⟩
  exact .replace ⟨m.extends_withStatus status, Or.inr ⟨code, status, rfl, hcode, rfl⟩⟩

/-- one operation on a store with the invariant is a step, and keeps the invariant -/
theorem action_step (op : Operation) {s : S.State} (hs : (S.mappings s).WellFormed)
    (hfresh : ∀ m ∈ (op.action contact).moments S.answer s, S.DrawsFresh m) :
    (S.mappings ((op.action contact).perform S.answer s).2).WellFormed ∧
      (S.mappings s).Evolves op (S.mappings ((op.action contact).perform S.answer s).2) := by
  -- leaving the mappings as they are is a step of every operation
  have same : ∀ s' : S.State, S.mappings s' = S.mappings s →
      (S.mappings s').WellFormed ∧ (S.mappings s).Evolves op (S.mappings s') := by
    intro s' h
    rw [h]
    exact ⟨hs, Store.Evolves.refl op _⟩
  cases op with
  | routeRead e =>
    have hquiet : (Operation.action contact (.routeRead e)).Only Call.Quiet :=
      only_bind (routeRead_quiet contact e) fun _ => only_pure _
    exact same _ (quiet_mappings S hquiet rfl)
  | routeWrite e =>
    have hmoments : ∀ m ∈ (Storage.routeWrite contact e).moments S.answer s, S.DrawsFresh m :=
      fun m hm => hfresh m (mem_moments_bind_left hm)
    simp only [Operation.action, perform_bind_pure]
    rcases hr : (Storage.routeWrite contact e).perform S.answer s with ⟨r, s'⟩
    cases routeWrite_cases S hr with
    | covered code m _ hcode hfound hsame => exact same s' hsame
    | refused failure _ hsame => exact same s' hsame
    | provisioned code candidate outcome s1 _ hcode hcandidate hfound hs1 hcall houtcome =>
      have hnone := Store.get?_equipmentCode_eq_none hfound
      rw [← hcandidate] at hnone
      have hid := hmoments _ hcall candidate rfl
      rw [hs1] at hid
      have hstep := provision_step hs (.routeWrite e) hnone hid
      rw [houtcome] at hstep
      exact hstep
  | setStatus code status =>
    simp only [Operation.action, perform_bind_pure]
    rcases hr : (Storage.setStatus code status).perform S.answer s with ⟨r, s'⟩
    cases setStatus_cases S hr with
    | refused failure _ hsame => exact same s' hsame
    | stored m _ hfound hstored =>
      have hstep := setStatus_step hs status hfound
      rw [← hstored] at hstep
      exact hstep

/-- a path to write to that is refused for any other reason than a disabled mapping leaves the store as it was -/
theorem mappings_of_refused {e : Equipment} {s s' : S.State} {failure : ServiceError}
    (h : (Storage.routeWrite contact e).perform S.answer s = (.error failure, s'))
    (hactive : ∀ wkeid code contact, failure ≠ .inactiveMapping wkeid code contact) :
    S.mappings s' = S.mappings s := by
  generalize hr : (Except.error failure : Except ServiceError Path) = r at h
  cases routeWrite_cases S h with
  | covered code m _ hcode hfound hsame => exact hsame
  | refused failure' _ hsame => exact hsame
  | provisioned code candidate outcome s1 _ hcode hcandidate hfound hs1 hcall houtcome =>
    unfold checkEnabled at hr
    split_ifs at hr
    · cases hr
    · cases hr
      exact absurd rfl (hactive _ _ _)

/-! ## Runs -/

/-- the invariant holds after a run -/
theorem performAll_wellFormed (ops : List Operation) {s : S.State} (hs : (S.mappings s).WellFormed)
    (hfresh : ∀ m ∈ momentsAll S.answer (ops.map (·.action contact)) s, S.DrawsFresh m) :
    (S.mappings (performAll S.answer (ops.map (·.action contact)) s)).WellFormed ∧
      (S.mappings s).Extends (S.mappings (performAll S.answer (ops.map (·.action contact)) s)) := by
  induction ops generalizing s with
  | nil => exact ⟨hs, Store.Extends.refl _⟩
  | cons op ops ih =>
    simp only [List.map_cons, momentsAll, List.mem_append] at hfresh
    obtain ⟨hwf, hev⟩ := action_step S contact op hs fun m hm => hfresh m (Or.inl hm)
    obtain ⟨hwf', hext⟩ := ih hwf fun m hm => hfresh m (Or.inr hm)
    exact ⟨hwf', hev.extends.trans hext⟩

/-- **The store of mappings only evolves.** Take any run of operations from a store with the invariant, in surroundings of
any behaviour whose generated ids are new. The run extends every mapping in its place. At every operation of the run,
successful or not, the invariant holds before and after, and the store evolves by this operation: mappings are extended in
their places, a status changes only by an operation that sets it through one of the mapping's codes, and mappings that are
added are disabled and have one code. Asking for a path to read from changes nothing, and neither does asking for a path to
write to if it fails otherwise than on a disabled mapping. -/
theorem routing_run (ops : List Operation) (s : S.State) (hs : (S.mappings s).WellFormed)
    (hfresh : ∀ m ∈ momentsAll S.answer (ops.map (·.action contact)) s, S.DrawsFresh m) :
    (S.mappings s).Extends (S.mappings (performAll S.answer (ops.map (·.action contact)) s)) ∧
    ∀ before op after, ops = before ++ op :: after →
      let s1 := performAll S.answer (before.map (·.action contact)) s
      let s2 := ((op.action contact).perform S.answer s1).2
      (S.mappings s1).WellFormed ∧ (S.mappings s2).WellFormed ∧ (S.mappings s1).Evolves op (S.mappings s2) ∧
      (∀ e, op = .routeRead e → S.mappings s2 = S.mappings s1) ∧
      ∀ e failure, op = .routeWrite e → ((op.action contact).perform S.answer s1).1 = .error failure →
        (∀ wkeid code contact, failure ≠ .inactiveMapping wkeid code contact) → S.mappings s2 = S.mappings s1 := by
  refine ⟨(performAll_wellFormed S contact ops hs hfresh).2, ?_⟩
  rintro before op after rfl s1 s2
  simp only [List.map_append, List.map_cons, momentsAll_append, momentsAll, List.mem_append] at hfresh
  have hs1 : (S.mappings s1).WellFormed :=
    (performAll_wellFormed S contact before hs fun m hm => hfresh m (Or.inl hm)).1
  obtain ⟨hs2, hev⟩ := action_step S contact op hs1 fun m hm => hfresh m (Or.inr (Or.inl hm))
  refine ⟨hs1, hs2, hev, ?_, ?_⟩
  · rintro e rfl
    exact quiet_mappings S (only_bind (routeRead_quiet contact e) fun _ => only_pure _) rfl
  · rintro e failure rfl hfail hactive
    simp only [s2, Operation.action, perform_bind_pure] at hfail ⊢
    rcases hr : (Storage.routeWrite contact e).perform S.answer s1 with ⟨failure' | path, s'⟩
    · rw [hr] at hfail
      cases hfail
      exact mappings_of_refused S contact hr hactive
    · rw [hr] at hfail
      cases hfail

end Run

/-! ## A run in a world -/

/-- the pump gets a mapping, which is then enabled and written through -/
def pumpRun : List Operation := [.routeWrite pump, .setStatus "E1" .enabled, .routeRead pump, .routeWrite pump]

/-- the first write provisions a disabled mapping, and setting its status is what enables it -/
theorem routing_run_pump :
    Store.WellFormed [fanMapping] ∧
    (∀ m ∈ momentsAll World.surroundings.answer (pumpRun.map (·.action "ops")) plant, World.surroundings.DrawsFresh m) ∧
    Store.Extends [fanMapping] [fanMapping, { pumpMapping with status := .enabled }] ∧
    Store.WellFormed [fanMapping, pumpMapping] ∧
    Store.Evolves (.setStatus "E1" .enabled) [fanMapping, pumpMapping]
      [fanMapping, { pumpMapping with status := .enabled }] := by
  have hwf : Store.WellFormed [fanMapping] := by constructor <;> simp [fanMapping]
  have hfresh : ∀ m ∈ momentsAll World.surroundings.answer (pumpRun.map (·.action "ops")) plant,
      World.surroundings.DrawsFresh m := by decide +kernel
  have hend : World.surroundings.mappings (performAll World.surroundings.answer (pumpRun.map (·.action "ops")) plant) =
      [fanMapping, { pumpMapping with status := .enabled }] := by decide +kernel
  have hbefore : World.surroundings.mappings (performAll World.surroundings.answer
      ((pumpRun.take 1).map (·.action "ops")) plant) = [fanMapping, pumpMapping] := by decide +kernel
  have hafter : World.surroundings.mappings (performAll World.surroundings.answer
      ((pumpRun.take 2).map (·.action "ops")) plant) =
      [fanMapping, { pumpMapping with status := .enabled }] := by decide +kernel
  obtain ⟨hext, hsteps⟩ := routing_run World.surroundings "ops" pumpRun plant hwf hfresh
  obtain ⟨hwf1, -, hev, -⟩ := hsteps (pumpRun.take 1) (.setStatus "E1" .enabled) (pumpRun.drop 2) rfl
  refine ⟨hwf, hfresh, ?_, ?_, ?_⟩
  · rw [← hend]; exact hext
  · rw [← hbefore]; exact hwf1
  · rw [← hafter, ← hbefore]; exact hev

end Storage

end Telemetry
