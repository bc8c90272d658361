import Mathlib.Data.List.Nodup
import Telemetry.Proofs.Storage.StatusRace
/-
Provisioning in any order.

A store is looked at by measurement: what is stored for a database and a measurement, its status and its equipment codes.
Provisioning a candidate changes what is stored for the candidate's measurement alone (`provision_forPair`). It adds a code
to a set of codes there and leaves the status, so what a measurement comes to depends on which candidates there are and not
on their order. Ids, the order of mappings and of codes, and the names a new mapping gets do depend on it.

- `ProvisionRun`: candidates provisioned one after another, with any ids;
- `ProvisionRun.kept`, `ProvisionRun.added`: what becomes of one measurement;
- `Completed`: what provisioning some candidates comes to, said without their order;
- `provision_any_order`: two orders come to the same.
-/
namespace Telemetry.Storage

/-! ## Measurements -/

/-- the database and the measurement -/
def Mapping.pair (m : Mapping) : String × String := (m.database, m.measurement)

def Candidate.pair (c : Candidate) : String × String := (c.database, c.measurement)

theorem Mapping.Extends.pair {old new : Mapping} (h : old.Extends new) : new.pair = old.pair :=
  Prod.ext h.database h.measurement

theorem Mapping.join_nodup {m : Mapping} (h : m.equipmentCodes.Nodup) (code : String) :
    (m.join code).equipmentCodes.Nodup := by
  by_cases hcode : code ∈ m.equipmentCodes
  · rwa [Mapping.join, if_pos (Mapping.covers_iff.2 hcode)]
  · rw [Mapping.join_of_not_mem hcode]
    refine List.nodup_append.2 ⟨h, List.nodup_singleton _, fun a ha b hb => ?_⟩
    rintro rfl
    exact hcode (List.mem_singleton.1 hb ▸ ha)

namespace Store

variable {s t : Store} {m : Mapping} {c : Candidate} {p : String × String}

theorem matchesMapping_iff_pair : c.matchesMapping m = true ↔ m.pair = c.pair := by
  rw [matchesMapping_iff, Mapping.pair, Candidate.pair, Prod.mk.injEq]

/-- the mapping of a database and a measurement -/
def forPair (s : Store) (p : String × String) : Option Mapping := s.get? (.measurement p.1 p.2)

theorem accepts_pair_iff : (Filter.measurement p.1 p.2).accepts m = true ↔ m.pair = p := by
  obtain ⟨database, measurement⟩ := p
  simp [Filter.accepts, Mapping.pair]

theorem of_forPair (h : s.forPair p = some m) : m ∈ s ∧ m.pair = p :=
  ⟨List.mem_of_find?_eq_some h, accepts_pair_iff.1 (List.find?_some h)⟩

theorem forPair_eq_none : s.forPair p = none ↔ p ∉ s.map (·.pair) := by
  simp only [forPair, get?, List.find?_eq_none, accepts_pair_iff, List.mem_map, not_exists, not_and]

theorem exists_forPair (h : p ∈ s.map (·.pair)) : ∃ m, s.forPair p = some m :=
  Option.ne_none_iff_exists'.1 fun hnone => forPair_eq_none.1 hnone h

theorem forPair_of_mem (hpairs : (s.map (·.pair)).Nodup) (hm : m ∈ s) : s.forPair m.pair = some m := by
  obtain ⟨found, hfound⟩ := exists_forPair (List.mem_map_of_mem hm)
  obtain ⟨hmem, hpair⟩ := of_forPair hfound
  rw [hfound, List.inj_on_of_nodup_map hpairs hmem hm hpair]

/-! ## One candidate -/

theorem forPair_cons (m : Mapping) (s : Store) (p : String × String) :
    forPair (m :: s) p = if m.pair = p then some m else s.forPair p := by
  by_cases h : m.pair = p
  · rw [if_pos h]
    exact List.find?_cons_of_pos (accepts_pair_iff.2 h)
  · rw [if_neg h]
    exact List.find?_cons_of_neg fun hm => h (accepts_pair_iff.1 hm)

theorem provision_cons (id : Uuid) (c : Candidate) (m : Mapping) (s : Store) :
    provision id c (m :: s) =
      if m.pair = c.pair then (⟨m.join c.equipmentCode, false⟩, m.join c.equipmentCode :: s)
      else ((provision id c s).1, m :: (provision id c s).2) := by
  simp only [provision, matchesMapping_iff_pair]

/-- the mapping of the candidate's measurement joins its code, or there is a new one -/
theorem provision_fst (id : Uuid) (c : Candidate) (s : Store) :
    (provision id c s).1 =
      (s.forPair c.pair).elim ⟨c.toMapping id, true⟩ fun m => ⟨m.join c.equipmentCode, false⟩ := by
  induction s with
  | nil => rfl
  | cons m s ih =>
    rw [provision_cons, forPair_cons]
    split
    · rfl
    · exact ih

/-- the candidate's measurement gets the mapping of the outcome, and no other changes -/
theorem provision_forPair (id : Uuid) (c : Candidate) (s : Store) (p : String × String) :
    (provision id c s).2.forPair p = if c.pair = p then some (provision id c s).1.mapping else s.forPair p := by
  induction s with
  | nil => exact forPair_cons (c.toMapping id) [] p
  | cons m s ih =>
    rw [provision_cons]
    split
    · rename_i hm
      rw [forPair_cons, forPair_cons, (m.extends_join c.equipmentCode).pair, hm]
      split <;> rfl
    · rename_i hm
      rw [forPair_cons, forPair_cons, ih]
      split_ifs with h1 h2
      · exact absurd (h1.trans h2.symm) hm
      · rfl
      · rfl
      · rfl

/-- a new mapping comes last -/
theorem provision_pairs (id : Uuid) (c : Candidate) (s : Store) :
    (provision id c s).2.map (·.pair) = s.map (·.pair) ++ if (provision id c s).1.created then [c.pair] else [] := by
  induction s with
  | nil => rfl
  | cons m s ih =>
    rw [provision_cons]
    split
    · rename_i hm
      simp [(m.extends_join c.equipmentCode).pair]
    · simp [ih]

/-! ## Candidates one after another -/

/-- one of the candidates is for the measurement and the equipment code -/
def Brings (cs : List Candidate) (p : String × String) (code : String) : Prop :=
  ∃ c ∈ cs, c.pair = p ∧ c.equipmentCode = code

theorem brings_cons {cs : List Candidate} {code : String} :
    Brings (c :: cs) p code ↔ (c.pair = p ∧ c.equipmentCode = code) ∨ Brings cs p code := by
  simp only [Brings, List.mem_cons, or_and_right, exists_or, exists_eq_left]

/-- a store after candidates are provisioned one after another, with any ids for the new mappings -/
inductive ProvisionRun : Store → List Candidate → List ProvisionOutcome → Store → Prop
  | nil (s : Store) : ProvisionRun s [] [] s
  | cons {s t : Store} {c : Candidate} {cs : List Candidate} {outcomes : List ProvisionOutcome} (id : Uuid)
      (hrest : ProvisionRun (provision id c s).2 cs outcomes t) :
      ProvisionRun s (c :: cs) ((provision id c s).1 :: outcomes) t

namespace ProvisionRun

variable {cs : List Candidate} {outcomes : List ProvisionOutcome} {old : Mapping}

/-- what is stored for a measurement is kept, with its status, and gets the codes of the candidates for it -/
theorem kept (h : ProvisionRun s cs outcomes t) (hold : s.forPair p = some old) :
    ∃ m, t.forPair p = some m ∧ old.Extends m ∧ m.status = old.status ∧
      (∀ code, code ∈ m.equipmentCodes ↔ code ∈ old.equipmentCodes ∨ Brings cs p code) ∧
      (old.equipmentCodes.Nodup → m.equipmentCodes.Nodup) := by
  induction h generalizing old with
  | nil s => exact ⟨old, hold, .refl old, rfl, by simp [Brings], id⟩
  | @cons s t c cs outcomes id _ ih =>
    by_cases hc : c.pair = p
    · -- the candidate's code joins, and the rest goes on from there
      have hjoined : (provision id c s).2.forPair p = some (old.join c.equipmentCode) := by
        rw [provision_forPair, if_pos hc, provision_fst, hc, hold]
        rfl
      obtain ⟨m, hm, hext, hstatus, hcodes, hnodup⟩ := ih hjoined
      refine ⟨m, hm, (old.extends_join _).trans hext, hstatus.trans (old.join_status _), fun code => ?_, fun hold => ?_⟩
      · rw [hcodes, mem_join_iff, brings_cons, eq_comm (a := code)]
        tauto
      · exact hnodup (Mapping.join_nodup hold _)
    · have hsame : (provision id c s).2.forPair p = some old := by rw [provision_forPair, if_neg hc, hold]
      obtain ⟨m, hm, hext, hstatus, hcodes, hnodup⟩ := ih hsame
      refine ⟨m, hm, hext, hstatus, fun code => ?_, hnodup⟩
      rw [hcodes, brings_cons]
      tauto

/-- a measurement without a mapping gets a disabled one, with the codes of the candidates for it -/
theorem added (h : ProvisionRun s cs outcomes t) (hnone : s.forPair p = none) (hp : p ∈ cs.map (·.pair)) :
    ∃ m, t.forPair p = some m ∧ m.status = .disabled ∧
      (∀ code, code ∈ m.equipmentCodes ↔ Brings cs p code) ∧ m.equipmentCodes.Nodup := by
  induction h with
  | nil s => cases hp
  | @cons s t c cs outcomes id hrest ih =>
    by_cases hc : c.pair = p
    · have hnew : (provision id c s).2.forPair p = some (c.toMapping id) := by
        rw [provision_forPair, if_pos hc, provision_fst, hc, hnone]
        rfl
      obtain ⟨m, hm, -, hstatus, hcodes, hnodup⟩ := hrest.kept hnew
      refine ⟨m, hm, hstatus, fun code => ?_, hnodup (List.nodup_singleton _)⟩
      rw [hcodes, brings_cons]
      simp [Candidate.toMapping, hc, eq_comm]
    · have hnone' : (provision id c s).2.forPair p = none := by rw [provision_forPair, if_neg hc, hnone]
      rw [List.map_cons, List.mem_cons] at hp
      obtain ⟨m, hm, hstatus, hcodes, hnodup⟩ := ih hnone' (hp.resolve_left (Ne.symm hc))
      refine ⟨m, hm, hstatus, fun code => ?_, hnodup⟩
      rw [hcodes, brings_cons]
      tauto

/-- new mappings come last, one for each outcome that tells of a new one -/
theorem pairs_append (h : ProvisionRun s cs outcomes t) :
    ∃ new, t.map (·.pair) = s.map (·.pair) ++ new ∧ new.length = outcomes.countP (·.created) ∧ ∀ p ∈ new, p ∈ cs.map (·.pair) := by
  induction h with
  | nil s => exact ⟨[], by simp, rfl, by simp⟩
  | @cons s t c cs outcomes id _ ih =>
    obtain ⟨new, hnew, hlength, hmem⟩ := ih
    rw [provision_pairs, List.append_assoc] at hnew
    refine ⟨_, hnew, ?_, ?_⟩
    · rw [List.length_append, hlength, List.countP_cons]
      split <;> simp [Nat.add_comm]
    · intro p hp
      rw [List.map_cons, List.mem_cons]
      rcases List.mem_append.1 hp with hp | hp
      · split at hp
        · exact Or.inl (List.mem_singleton.1 hp)
        · cases hp
      · exact Or.inr (hmem p hp)

/-- measurements stay apart -/
theorem pairs_nodup (h : ProvisionRun s cs outcomes t) (hs : (s.map (·.pair)).Nodup) : (t.map (·.pair)).Nodup := by
  induction h with
  | nil s => exact hs
  | @cons s t c cs outcomes id _ ih =>
    refine ih ?_
    rw [provision_pairs, provision_fst]
    rcases hfound : s.forPair c.pair with _ | m
    · refine List.nodup_append.2 ⟨hs, List.nodup_singleton _, fun p hp q hq => ?_⟩
      rintro rfl
      exact forPair_eq_none.1 hfound (List.mem_singleton.1 hq ▸ hp)
    · simpa using hs

/-- each outcome tells of the candidate's measurement, and that its code is covered -/
theorem covered (h : ProvisionRun s cs outcomes t) :
    List.Forall₂ (fun c outcome => c.matchesMapping outcome.mapping = true ∧ outcome.mapping.covers c.equipmentCode = true) cs
      outcomes := by
  induction h with
  | nil s => exact .nil
  | @cons s t c cs outcomes id _ ih =>
    obtain ⟨-, hpair, hcode⟩ := s.provision_outcome id c
    exact .cons ⟨hpair, Mapping.covers_iff.2 hcode⟩ ih

end ProvisionRun

/-! ## Any order -/

/-- all that provisioning some candidates comes to: no measurement is stored twice, those that were stored keep their
status, new ones are disabled, and each has the codes that it had or that a candidate brings -/
structure Completed (s : Store) (cs : List Candidate) (outcomes : List ProvisionOutcome) (t : Store) : Prop where
  pairs_nodup : (t.map (·.pair)).Nodup
  pairs : ∀ p, p ∈ t.map (·.pair) ↔ p ∈ s.map (·.pair) ∨ p ∈ cs.map (·.pair)
  kept : ∀ old ∈ s, ∀ m ∈ t, m.pair = old.pair → old.Extends m ∧ m.status = old.status ∧
    (∀ code, code ∈ m.equipmentCodes ↔ code ∈ old.equipmentCodes ∨ Brings cs m.pair code) ∧
    (old.equipmentCodes.Nodup → m.equipmentCodes.Nodup)
  added : ∀ m ∈ t, m.pair ∉ s.map (·.pair) → m.status = .disabled ∧
    (∀ code, code ∈ m.equipmentCodes ↔ Brings cs m.pair code) ∧ m.equipmentCodes.Nodup
  /-- as many outcomes tell of a new mapping as there are new measurements -/
  created : outcomes.countP (·.created) = (t.map (·.pair)).countP fun p => p ∉ s.map (·.pair)
  covered : List.Forall₂ (fun c outcome => c.matchesMapping outcome.mapping = true ∧
    outcome.mapping.covers c.equipmentCode = true) cs outcomes

/-- the same measurements, each with the same status and the same set of codes -/
structure SameContent (s t : Store) : Prop where
  pairs : (s.map (·.pair)).Perm (t.map (·.pair))
  mappings : ∀ m ∈ s, ∀ n ∈ t, m.pair = n.pair →
    m.status = n.status ∧ ∀ code, code ∈ m.equipmentCodes ↔ code ∈ n.equipmentCodes

variable {cs cs' : List Candidate} {outcomes outcomes' : List ProvisionOutcome} {t' : Store}

theorem ProvisionRun.completed (h : ProvisionRun s cs outcomes t) (hs : (s.map (·.pair)).Nodup) : Completed s cs outcomes t := by
  have ht := h.pairs_nodup hs
  obtain ⟨new, hnew, hlength, hmem⟩ := h.pairs_append
  have happart : ∀ p ∈ new, p ∉ s.map (·.pair) := by
    intro p hp hold
    rw [hnew, List.nodup_append] at ht
    exact ht.2.2 p hold p hp rfl
  have hpairs (p : String × String) : p ∈ t.map (·.pair) ↔ p ∈ s.map (·.pair) ∨ p ∈ cs.map (·.pair) := by
    constructor
    · intro hp
      rw [hnew, List.mem_append] at hp
      exact hp.imp_right (hmem p)
    · intro hp
      by_cases hold : p ∈ s.map (·.pair)
      · rw [hnew]
        exact List.mem_append_left _ hold
      · obtain ⟨m, hm, -⟩ := h.added (forPair_eq_none.2 hold) (hp.resolve_left hold)
        obtain ⟨hmem, rfl⟩ := of_forPair hm
        exact List.mem_map_of_mem hmem
  refine ⟨ht, hpairs, fun old hold m hm hpair => ?_, fun m hm hno => ?_, ?_, h.covered⟩
  · obtain ⟨m', hm', hrest⟩ := h.kept (forPair_of_mem hs hold)
    rw [← hpair, forPair_of_mem ht hm, Option.some.injEq] at hm'
    subst hm'
    rwa [← hpair] at hrest
  · have hp := ((hpairs m.pair).1 (List.mem_map_of_mem hm)).resolve_left hno
    obtain ⟨m', hm', hrest⟩ := h.added (forPair_eq_none.2 hno) hp
    rw [forPair_of_mem ht hm, Option.some.injEq] at hm'
    subst hm'
    exact hrest
  · have hold : (s.map (·.pair)).countP (fun p => p ∉ s.map (·.pair)) = 0 :=
      List.countP_eq_zero.2 fun p hp => by simpa using hp
    have hadded : new.countP (fun p => p ∉ s.map (·.pair)) = new.length :=
      List.countP_eq_length.2 fun p hp => by simpa using happart p hp
    rw [hnew, List.countP_append, hold, hadded, hlength, Nat.zero_add]

/-- two orders of the same candidates come to the same -/
theorem Completed.sameContent (h : Completed s cs outcomes t) (h' : Completed s cs' outcomes' t') (hperm : cs.Perm cs') :
    SameContent t t' := by
  have hbrings (p : String × String) (code : String) : Brings cs p code ↔ Brings cs' p code := by
    simp only [Brings, hperm.mem_iff]
  refine ⟨(List.perm_ext_iff_of_nodup h.pairs_nodup h'.pairs_nodup).2 fun p => ?_, fun m hm n hn hpair => ?_⟩
  · rw [h.pairs, h'.pairs, (hperm.map _).mem_iff]
  · by_cases hold : m.pair ∈ s.map (·.pair)
    · obtain ⟨old, hold, hpairold⟩ := List.mem_map.1 hold
      obtain ⟨-, hstatus, hcodes, -⟩ := h.kept old hold m hm hpairold.symm
      obtain ⟨-, hstatus', hcodes', -⟩ := h'.kept old hold n hn (hpair.symm.trans hpairold.symm)
      exact ⟨hstatus.trans hstatus'.symm, fun code => by rw [hcodes, hcodes', hpair, hbrings]⟩
    · obtain ⟨hstatus, hcodes, -⟩ := h.added m hm hold
      obtain ⟨hstatus', hcodes', -⟩ := h'.added n hn (hpair ▸ hold)
      exact ⟨hstatus.trans hstatus'.symm, fun code => by rw [hcodes, hcodes', hpair, hbrings]⟩

end Store

open Program Store

variable {w : World}

/-- where the store does not fail, every candidate is provisioned -/
theorem provisionEach_run (hw : w.faults.StoresNeverFail) (earlier : List ProvisionOutcome) (cs : List Candidate) :
    ∃ outcomes u, (provisionEach earlier cs).run w = (.ok (earlier ++ outcomes), u) ∧
      ProvisionRun w.mappings cs outcomes u.mappings := by
  induction cs generalizing w earlier with
  | nil => exact ⟨[], w, by rw [List.append_nil]; rfl, .nil _⟩
  | cons c cs ih =>
    obtain ⟨id, hanswer, hmappings⟩ := answer_mappingProvision hw c
    have hfirst : (provisionPlainly c).run w = (.ok (w.mappings.provision id c).1, (w.answer (.mappingProvision c)).2) := by
      rw [provisionPlainly, Program.run, perform, hanswer]
      rfl
    obtain ⟨outcomes, u, hrun, hrest⟩ :=
      ih (w := (w.answer (.mappingProvision c)).2) (by rw [(World.answer_fixed w _).2]; exact hw)
        (earlier ++ [(w.mappings.provision id c).1])
    refine ⟨_, u, ?_, .cons id (hmappings ▸ hrest)⟩
    rw [provisionEach, World.run_bind_of_ok hfirst, hrun, List.append_assoc, List.singleton_append]

/-- **Provisioning is the same in any order.** Take a store that has no measurement twice, and candidates in two orders,
provisioned one after another with whatever ids. Both orders succeed. Either way no measurement is stored twice; those that
were stored are kept, with their status, and with the codes that the candidates bring added; new ones are disabled and have
these codes alone; no code is listed twice that was not before; as many outcomes tell of a new mapping as there are new
measurements; and each outcome's mapping covers its candidate's code. So both orders come to the same measurements, each
with the same status and the same set of codes. -/
theorem provision_any_order (w w' : World) (cs cs' : List Candidate) (hsame : w'.mappings = w.mappings)
    (hpairs : (w.mappings.map (·.pair)).Nodup) (hperm : cs.Perm cs') (hw : w.faults.StoresNeverFail)
    (hw' : w'.faults.StoresNeverFail) :
    ∃ outcomes outcomes' u u', (provisionEach [] cs).run w = (.ok outcomes, u) ∧
      (provisionEach [] cs').run w' = (.ok outcomes', u') ∧
      Completed w.mappings cs outcomes u.mappings ∧ Completed w.mappings cs' outcomes' u'.mappings ∧
      SameContent u.mappings u'.mappings := by
  obtain ⟨outcomes, u, hrun, h⟩ := provisionEach_run hw [] cs
  obtain ⟨outcomes', u', hrun', h'⟩ := provisionEach_run hw' [] cs'
  rw [hsame] at h'
  have hcompleted := h.completed hpairs
  have hcompleted' := h'.completed hpairs
  exact ⟨outcomes, outcomes', u, u', hrun, hrun', hcompleted, hcompleted', hcompleted.sameContent hcompleted' hperm⟩

/-- two pumps and a fan, one of the pumps twice -/
def joining : List Candidate :=
  [pumpCandidate "E1", ⟨"FAN", "ACME", "E5", "B1", "T0", "acme", "fan"⟩, pumpCandidate "E2", pumpCandidate "E2"]

def joined : World := ((provisionEach [] joining).run plant).2

/-- the plant once they are provisioned the other way round -/
def joinedReversed : World := ((provisionEach [] joining.reverse).run plant).2

/-- the pumps' new mapping and the fan's enabled one have the same codes either way, though not in the same order -/
theorem provision_any_order_pumps :
    (plant.mappings.map (·.pair)).Nodup ∧ SameContent joined.mappings joinedReversed.mappings ∧
      joined.mappings ≠ joinedReversed.mappings ∧
      (∃ outcomes, Completed plant.mappings joining outcomes joined.mappings ∧ outcomes.countP (·.created) = 1) := by
  have hpairs : (plant.mappings.map (·.pair)).Nodup := by decide +kernel
  obtain ⟨outcomes, outcomes', u, u', hrun, hrun', hcompleted, -, hsame⟩ :=
    provision_any_order plant plant joining joining.reverse rfl hpairs (List.reverse_perm _).symm (fun _ _ => rfl) fun _ _ => rfl
  obtain rfl : joined = u := congrArg Prod.snd hrun
  obtain rfl : joinedReversed = u' := congrArg Prod.snd hrun'
  refine ⟨hpairs, hsame, by decide +kernel, outcomes, hcompleted, ?_⟩
  rw [hcompleted.created]
  decide +kernel

end Telemetry.Storage
