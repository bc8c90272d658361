import Mathlib.Tactic.SplitIfs
import Mathlib.Tactic.Tauto
import Telemetry.Storage.Store
/-
How the mapping store grows.

`Mapping.Extends` compares a mapping with a later state of it: the same id, names and codes, equipment codes appended at
most; the status is left open. The two operations that change a store put a mapping in the place of another or append one
(`provision_cases`, `upsert_of_mem`), so each mapping lives on in its place.

- `get?_equipmentCode_eq_none`, `get?_equipmentCode_eq_some`: what a look-up by equipment code says of the store;
- `provision_retains`: provisioning keeps every mapping, with its status;
- `provision_outcome`: the outcome is stored, is about the candidate's measurement and covers its code;
- `get?_replace`, `provision_get?`, `provision_get?_uncovered`, `provision_get?_outcome`: which mapping is the first to cover
  a code, after a change;
- `WellFormed.replace`, `WellFormed.append`: the invariant of the store survives both kinds of change.
-/
namespace Telemetry.Storage

/-! ## Extension -/

/-- a later state of a mapping: nothing changes but the status, and equipment codes are appended -/
structure Mapping.Extends (old new : Mapping) : Prop where
  id : new.id = old.id
  database : new.database = old.database
  measurement : new.measurement = old.measurement
  brandCode : new.brandCode = old.brandCode
  technologyCode : new.technologyCode = old.technologyCode
  brandName : new.brandName = old.brandName
  technologyName : new.technologyName = old.technologyName
  equipmentCodes : old.equipmentCodes <+: new.equipmentCodes

namespace Mapping

theorem Extends.refl (m : Mapping) : m.Extends m :=
  ⟨rfl, rfl, rfl, rfl, rfl, rfl, rfl, List.prefix_refl _⟩

theorem Extends.trans {a b c : Mapping} (h1 : a.Extends b) (h2 : b.Extends c) : a.Extends c :=
  ⟨h2.id.trans h1.id, h2.database.trans h1.database, h2.measurement.trans h1.measurement,
    h2.brandCode.trans h1.brandCode, h2.technologyCode.trans h1.technologyCode, h2.brandName.trans h1.brandName,
    h2.technologyName.trans h1.technologyName, h1.equipmentCodes.trans h2.equipmentCodes⟩

theorem extends_join (m : Mapping) (code : String) : m.Extends (m.join code) := by
  unfold join
  split_ifs
  · exact Extends.refl m
  · exact ⟨rfl, rfl, rfl, rfl, rfl, rfl, rfl, List.prefix_append _ _⟩

theorem extends_withStatus (m : Mapping) (status : Status) : m.Extends { m with status } :=
  ⟨rfl, rfl, rfl, rfl, rfl, rfl, rfl, List.prefix_refl _⟩

theorem covers_iff {m : Mapping} {code : String} : m.covers code = true ↔ code ∈ m.equipmentCodes := by
  simp [covers]

theorem join_status (m : Mapping) (code : String) : (m.join code).status = m.status := by
  unfold join
  split_ifs <;> rfl

theorem mem_join (m : Mapping) (code : String) : code ∈ (m.join code).equipmentCodes := by
  unfold join
  split_ifs with h
  · exact covers_iff.1 h
  · simp

theorem join_of_not_mem {m : Mapping} {code : String} (h : code ∉ m.equipmentCodes) :
    (m.join code).equipmentCodes = m.equipmentCodes ++ [code] := by
  unfold join
  rw [if_neg (fun hc => h (covers_iff.1 hc))]

/-- a mapping covers another code as before when a code joins it -/
theorem join_covers {m : Mapping} {joining code : String} (h : code ≠ joining) :
    (m.join joining).covers code = m.covers code := by
  unfold join
  split_ifs
  · rfl
  · simp [covers, h]

end Mapping

/-! ## Provisioning and replacing -/

namespace Store

/-- provisioning lets the first mapping of the candidate's measurement join its code, or appends a new mapping -/
theorem provision_cases (s : Store) (id : Uuid) (c : Candidate) :
    (∃ s1 m s2, s = s1 ++ m :: s2 ∧ c.matchesMapping m = true ∧
      s.provision id c = (⟨m.join c.equipmentCode, false⟩, s1 ++ m.join c.equipmentCode :: s2)) ∨
    ((∀ m ∈ s, c.matchesMapping m = false) ∧ s.provision id c = (⟨c.toMapping id, true⟩, s ++ [c.toMapping id])) := by
  induction s with
  | nil => exact Or.inr ⟨by simp, rfl⟩
  | cons n s ih =>
    cases hn : c.matchesMapping n with
    | true => exact Or.inl ⟨[], n, s, rfl, hn, by simp [provision, hn]⟩
    | false =>
      rcases ih with ⟨s1, m, s2, rfl, hm, hp⟩ | ⟨hno, hp⟩
      · exact Or.inl ⟨n :: s1, m, s2, rfl, hm, by simp [provision, hn, hp]⟩
      · refine Or.inr ⟨fun m hm => ?_, by simp [provision, hn, hp]⟩
        rcases List.mem_cons.1 hm with rfl | hm
        · exact hn
        · exact hno m hm

theorem get?_equipmentCode_eq_none {store : Store} {code : String} (h : store.get? (.equipmentCode code) = none) :
    ∀ m ∈ store, code ∉ m.equipmentCodes := by
  intro m hm hcode
  have := List.find?_eq_none.1 h m hm
  exact this (Mapping.covers_iff.2 hcode)

theorem get?_equipmentCode_eq_some {store : Store} {code : String} {m : Mapping}
    (h : store.get? (.equipmentCode code) = some m) : m ∈ store ∧ code ∈ m.equipmentCodes := by
  have hcovers : (Filter.equipmentCode code).accepts m = true := List.find?_some h
  exact ⟨List.mem_of_find?_eq_some h, Mapping.covers_iff.1 hcovers⟩

theorem matchesMapping_iff {c : Candidate} {m : Mapping} :
    c.matchesMapping m = true ↔ m.database = c.database ∧ m.measurement = c.measurement := by
  simp [Candidate.matchesMapping]

/-- provisioning keeps every mapping, with its status -/
theorem provision_retains {s : Store} {m : Mapping} (hm : m ∈ s) (id : Uuid) (c : Candidate) :
    ∃ m' ∈ (s.provision id c).2, m.Extends m' ∧ m'.status = m.status := by
  rcases provision_cases s id c with ⟨s1, n, s2, rfl, -, hp⟩ | ⟨-, hp⟩
  · rw [hp]
    rcases List.mem_append.1 hm with h | h
    · exact ⟨m, List.mem_append_left _ h, Mapping.Extends.refl m, rfl⟩
    · rcases List.mem_cons.1 h with rfl | h
      · exact ⟨m.join c.equipmentCode, by simp, m.extends_join _, m.join_status _⟩
      · exact ⟨m, by simp [h], Mapping.Extends.refl m, rfl⟩
  · rw [hp]
    exact ⟨m, List.mem_append_left _ hm, Mapping.Extends.refl m, rfl⟩

/-- the outcome is stored, is about the candidate's measurement and covers its code -/
theorem provision_outcome (s : Store) (id : Uuid) (c : Candidate) :
    (s.provision id c).1.mapping ∈ (s.provision id c).2 ∧
      c.matchesMapping (s.provision id c).1.mapping = true ∧
      c.equipmentCode ∈ (s.provision id c).1.mapping.equipmentCodes := by
  rcases provision_cases s id c with ⟨s1, m, s2, -, hm, hp⟩ | ⟨-, hp⟩
  · rw [hp]
    have hext := m.extends_join c.equipmentCode
    obtain ⟨hd, hn⟩ := matchesMapping_iff.1 hm
    exact ⟨by simp, matchesMapping_iff.2 ⟨hext.database.trans hd, hext.measurement.trans hn⟩, m.mem_join _⟩
  · rw [hp]
    exact ⟨by simp, matchesMapping_iff.2 ⟨rfl, rfl⟩, by simp [Candidate.toMapping]⟩

/-- a mapping gives way in place to one with its id, if no mapping before it has this id -/
theorem upsert_of_mem {s1 s2 : Store} {m m' : Mapping} (hid : m'.id = m.id) (h1 : ∀ n ∈ s1, n.id ≠ m.id) :
    Store.upsert (s1 ++ m :: s2) m' = s1 ++ m' :: s2 := by
  unfold upsert
  induction s1 with
  | nil => simp [putRecord, hid]
  | cons n s1 ih =>
    have hn : n.id ≠ m'.id := by rw [hid]; exact h1 n List.mem_cons_self
    have := ih fun k hk => h1 k (List.mem_cons_of_mem n hk)
    simp only [List.cons_append, putRecord, beq_iff_eq, hn, if_false, this]

/-- a mapping that covers a code as much as the one in whose place it is put does not change which mapping is the first to
cover the code, but for being this mapping itself -/
theorem get?_replace (s1 s2 : Store) {m m' : Mapping} {code : String} (hcovers : m'.covers code = m.covers code) :
    get? (s1 ++ m' :: s2) (.equipmentCode code) = get? (s1 ++ m :: s2) (.equipmentCode code) ∨
      get? (s1 ++ m :: s2) (.equipmentCode code) = some m ∧ get? (s1 ++ m' :: s2) (.equipmentCode code) = some m' := by
  have haccepts : (Filter.equipmentCode code).accepts m' = (Filter.equipmentCode code).accepts m := hcovers
  unfold get?
  rw [List.find?_append, List.find?_append]
  rcases hfirst : List.find? (Filter.equipmentCode code).accepts s1 with _ | n
  · rw [List.find?_cons, List.find?_cons, haccepts]
    cases (Filter.equipmentCode code).accepts m with
    | true => exact Or.inr ⟨rfl, rfl⟩
    | false => exact Or.inl rfl
  · exact Or.inl rfl

/-- provisioning for one code leaves the first mapping that covers another one the first, extended at most -/
theorem provision_get? {s : Store} {id : Uuid} {c : Candidate} {code : String} {m : Mapping} (hcode : code ≠ c.equipmentCode)
    (hm : s.get? (.equipmentCode code) = some m) :
    ∃ m', (s.provision id c).2.get? (.equipmentCode code) = some m' ∧ m.Extends m' ∧ m'.status = m.status := by
  rcases provision_cases s id c with ⟨s1, n, s2, rfl, -, hp⟩ | ⟨-, hp⟩ <;> rw [hp]
  · have hcovers : (n.join c.equipmentCode).covers code = n.covers code := Mapping.join_covers hcode
    rcases get?_replace s1 s2 hcovers with hsame | ⟨hold, hnew⟩
    · exact ⟨m, hsame.trans hm, Mapping.Extends.refl m, rfl⟩
    · rw [hm, Option.some.injEq] at hold
      subst hold
      exact ⟨_, hnew, m.extends_join _, m.join_status _⟩
  · refine ⟨m, ?_, Mapping.Extends.refl m, rfl⟩
    simp only [get?, List.find?_append] at hm ⊢
    rw [hm]
    rfl

/-- provisioning for one code leaves another one that no mapping covers uncovered -/
theorem provision_get?_uncovered {s : Store} {id : Uuid} {c : Candidate} {code : String} (hcode : code ≠ c.equipmentCode)
    (hnone : s.get? (.equipmentCode code) = none) : (s.provision id c).2.get? (.equipmentCode code) = none := by
  rcases provision_cases s id c with ⟨s1, n, s2, rfl, -, hp⟩ | ⟨-, hp⟩ <;> rw [hp]
  · have hcovers : (n.join c.equipmentCode).covers code = n.covers code := Mapping.join_covers hcode
    rcases get?_replace s1 s2 hcovers with hsame | ⟨hold, -⟩
    · exact hsame.trans hnone
    · rw [hnone] at hold
      cases hold
  · have hnew : (c.toMapping id).covers code = false := by
      simp [Mapping.covers, Candidate.toMapping, hcode]
    simp only [get?, List.find?_append, List.find?_singleton] at hnone ⊢
    rw [hnone]
    simp [Filter.accepts, hnew]

/-- a code that no mapping covers is covered by the outcome once it is provisioned for -/
theorem provision_get?_outcome {s : Store} {c : Candidate} (id : Uuid)
    (hnone : s.get? (.equipmentCode c.equipmentCode) = none) :
    (s.provision id c).2.get? (.equipmentCode c.equipmentCode) = some (s.provision id c).1.mapping := by
  rcases provision_cases s id c with ⟨s1, m, s2, rfl, -, hp⟩ | ⟨-, hp⟩ <;> rw [hp]
  · have hbefore : s1.find? (Filter.equipmentCode c.equipmentCode).accepts = none :=
      List.find?_eq_none.2 fun n hn => List.find?_eq_none.1 hnone n (List.mem_append_left _ hn)
    have hcovers : (m.join c.equipmentCode).covers c.equipmentCode = true := Mapping.covers_iff.2 (m.mem_join _)
    simp only [get?, List.find?_append, hbefore, Option.none_or]
    exact List.find?_cons_of_pos hcovers
  · have hcovers : (c.toMapping id).covers c.equipmentCode = true := by simp [Mapping.covers, Candidate.toMapping]
    unfold get? at hnone ⊢
    rw [List.find?_append, hnone, Option.none_or]
    exact List.find?_cons_of_pos hcovers

/-- provisioning keeps ids apart, if the id given to it is new where it is used -/
theorem provision_ids_nodup {s : Store} {id : Uuid} {c : Candidate} (hs : (s.map (·.id)).Nodup)
    (hid : (∀ m ∈ s, c.matchesMapping m = false) → ∀ m ∈ s, m.id ≠ id) : ((s.provision id c).2.map (·.id)).Nodup := by
  rcases provision_cases s id c with ⟨s1, n, s2, rfl, -, hp⟩ | ⟨hno, hp⟩ <;> rw [hp]
  · simpa only [List.map_append, List.map_cons, (n.extends_join c.equipmentCode).id] using hs
  · rw [List.map_append, List.nodup_append]
    refine ⟨hs, by simp, fun a ha b hb => ?_⟩
    obtain ⟨m, hm, rfl⟩ := List.mem_map.1 ha
    rw [List.map_singleton, List.mem_singleton] at hb
    rw [hb]
    exact hid hno m hm

theorem id_ne_of_nodup {s1 s2 : Store} {m : Mapping} (h : ((s1 ++ m :: s2).map (·.id)).Nodup) : ∀ n ∈ s1, n.id ≠ m.id := by
  intro n hn
  rw [List.map_append, List.map_cons] at h
  exact (List.nodup_append.1 h).2.2 _ (List.mem_map_of_mem hn) _ List.mem_cons_self

/-! ## The invariant -/

/-- ids and measurements are distinct, and each equipment code is listed once, by one mapping; no mapping lists none -/
structure WellFormed (s : Store) : Prop where
  ids : (s.map (·.id)).Nodup
  measurements : (s.map fun m => (m.database, m.measurement)).Nodup
  covered_once : ∀ m ∈ s, ∀ n ∈ s, ∀ code, code ∈ m.equipmentCodes → code ∈ n.equipmentCodes → m = n
  codes_nodup : ∀ m ∈ s, m.equipmentCodes.Nodup
  codes_ne_nil : ∀ m ∈ s, m.equipmentCodes ≠ []

theorem WellFormed.nil : WellFormed [] := by
  constructor <;> simp

theorem WellFormed.id_ne {s1 s2 : Store} {m : Mapping} (h : WellFormed (s1 ++ m :: s2)) : ∀ n ∈ s1, n.id ≠ m.id :=
  id_ne_of_nodup h.ids

theorem WellFormed.ne_of_mem {s1 s2 : Store} {m : Mapping} (h : WellFormed (s1 ++ m :: s2)) :
    ∀ n ∈ s1 ++ s2, n ≠ m := by
  intro n hn hnm
  subst hnm
  have hids := h.ids
  rw [List.map_append, List.map_cons, List.nodup_append, List.nodup_cons] at hids
  rcases List.mem_append.1 hn with h1 | h2
  · exact h.id_ne n h1 rfl
  · exact hids.2.1.1 (List.mem_map_of_mem h2)

/-- a mapping may be replaced by a later state of it whose additional codes nothing covers -/
theorem WellFormed.replace {s1 s2 : Store} {m m' : Mapping} (h : WellFormed (s1 ++ m :: s2)) (hext : m.Extends m')
    (hnodup : m'.equipmentCodes.Nodup)
    (hnew : ∀ code ∈ m'.equipmentCodes, code ∈ m.equipmentCodes ∨ ∀ n ∈ s1 ++ m :: s2, code ∉ n.equipmentCodes) :
    WellFormed (s1 ++ m' :: s2) := by
  have hmem : ∀ n, n ∈ s1 ++ m' :: s2 → n = m' ∨ n ∈ s1 ++ s2 := by
    intro n hn; simp only [List.mem_append, List.mem_cons] at hn ⊢; tauto
  have hold : ∀ n ∈ s1 ++ s2, n ∈ s1 ++ m :: s2 := by
    intro n hn; simp only [List.mem_append, List.mem_cons] at hn ⊢; tauto
  -- a code of the new state is in no other mapping
  have hapart : ∀ n ∈ s1 ++ s2, ∀ code ∈ m'.equipmentCodes, code ∉ n.equipmentCodes := by
    intro n hn code hc hcn
    rcases hnew code hc with hcm | hno
    · exact h.ne_of_mem n hn (h.covered_once n (hold n hn) m (by simp) code hcn hcm)
    · exact hno n (hold n hn) hcn
  refine ⟨?_, ?_, ?_, ?_, ?_⟩
  · have := h.ids
    simpa only [List.map_append, List.map_cons, hext.id] using this
  · have := h.measurements
    simpa only [List.map_append, List.map_cons, hext.database, hext.measurement] using this
  · intro a ha b hb code hca hcb
    rcases hmem a ha with rfl | ha' <;> rcases hmem b hb with rfl | hb'
    · rfl
    · exact absurd hcb (hapart b hb' code hca)
    · exact absurd hca (hapart a ha' code hcb)
    · exact h.covered_once a (hold a ha') b (hold b hb') code hca hcb
  · intro n hn
    rcases hmem n hn with rfl | hn
    · exact hnodup
    · exact h.codes_nodup n (hold n hn)
  · intro n hn
    rcases hmem n hn with rfl | hn
    · obtain ⟨added, hadded⟩ := hext.equipmentCodes
      have := h.codes_ne_nil m (by simp)
      rw [← hadded]
      simp [this]
    · exact h.codes_ne_nil n (hold n hn)

/-- a mapping may be appended under a new id, for a new measurement and with codes that nothing covers -/
theorem WellFormed.append {s : Store} {m : Mapping} (h : s.WellFormed) (hid : ∀ n ∈ s, n.id ≠ m.id)
    (hmeasurement : ∀ n ∈ s, ¬ (n.database = m.database ∧ n.measurement = m.measurement))
    (hnodup : m.equipmentCodes.Nodup) (hne : m.equipmentCodes ≠ [])
    (hnew : ∀ n ∈ s, ∀ code ∈ m.equipmentCodes, code ∉ n.equipmentCodes) : WellFormed (s ++ [m]) := by
  have hmem : ∀ n, n ∈ s ++ [m] → n ∈ s ∨ n = m := by
    intro n hn; simpa using hn
  refine ⟨?_, ?_, ?_, ?_, ?_⟩
  · rw [List.map_append, List.nodup_append]
    refine ⟨h.ids, by simp, ?_⟩
    intro i hi j hj
    obtain ⟨n, hn, rfl⟩ := List.mem_map.1 hi
    simp only [List.map_cons, List.map_nil, List.mem_singleton] at hj
    rw [hj]; exact hid n hn
  · rw [List.map_append, List.nodup_append]
    refine ⟨h.measurements, by simp, ?_⟩
    intro i hi j hj
    obtain ⟨n, hn, rfl⟩ := List.mem_map.1 hi
    simp only [List.map_cons, List.map_nil, List.mem_singleton] at hj
    rw [hj]
    intro heq
    exact hmeasurement n hn (by simpa using heq)
  · intro a ha b hb code hca hcb
    rcases hmem a ha with ha' | rfl <;> rcases hmem b hb with hb' | rfl
    · exact h.covered_once a ha' b hb' code hca hcb
    · exact absurd hca (hnew a ha' code hcb)
    · exact absurd hcb (hnew b hb' code hca)
    · rfl
  · intro n hn
    rcases hmem n hn with hn | rfl
    · exact h.codes_nodup n hn
    · exact hnodup
  · intro n hn
    rcases hmem n hn with hn | rfl
    · exact h.codes_ne_nil n hn
    · exact hne

end Store

end Telemetry.Storage
