import Telemetry.Proofs.Storage.Growth
/-
Which equipment codes a store of mappings covers, place by place.

A mapping keeps its place in the store, so a store is compared with a later one at each place (`Store.Retains`). What is
covered beside a place is what the store without this place covers.

- `Retains.covers`, `Retains.firstAt`: what a store covers and finds under an id, a store that retains it does too;
- `provision_retains_places`, `provision_covers`: provisioning retains every place, and adds the candidate's code alone;
- `covers_iff_at`, `covers_set`: the codes covered, by the mapping at one place and beside it;
- `upsert_eq_set`: a mapping is replaced in its place, even if a later one has its id.
-/
namespace Telemetry.Storage.Store

/-- some mapping covers the equipment code -/
def Covers (s : Store) (code : String) : Prop := ∃ m ∈ s, code ∈ m.equipmentCodes

instance (s : Store) (code : String) : Decidable (s.Covers code) :=
  inferInstanceAs (Decidable (∃ m ∈ s, code ∈ m.equipmentCodes))

/-- every mapping is in its place in the later store, extended, with its status -/
def Retains (s t : Store) : Prop :=
  ∀ (i : Nat) (m : Mapping), s[i]? = some m → ∃ m', t[i]? = some m' ∧ m.Extends m' ∧ m'.status = m.status

/-- the mapping at a place is the first under its id -/
structure FirstAt (s : Store) (i : Nat) (m : Mapping) : Prop where
  found : s[i]? = some m
  first : ∀ j n, j < i → s[j]? = some n → n.id ≠ m.id

variable {s t u : Store} {i : Nat} {m m' : Mapping} {code : String}

/-! ## Retaining -/

theorem Retains.refl (s : Store) : s.Retains s := fun _ m hm => ⟨m, hm, Mapping.Extends.refl m, rfl⟩

theorem Retains.trans (h1 : s.Retains t) (h2 : t.Retains u) : s.Retains u := by
  intro i m hm
  obtain ⟨m1, hm1, hext1, hstatus1⟩ := h1 i m hm
  obtain ⟨m2, hm2, hext2, hstatus2⟩ := h2 i m1 hm1
  exact ⟨m2, hm2, hext1.trans hext2, hstatus2.trans hstatus1⟩

theorem Retains.covers (h : s.Retains t) (hs : s.Covers code) : t.Covers code := by
  obtain ⟨m, hm, hcode⟩ := hs
  obtain ⟨i, hi⟩ := List.mem_iff_getElem?.1 hm
  obtain ⟨m', hm', hext, -⟩ := h i m hi
  exact ⟨m', List.mem_of_getElem? hm', hext.equipmentCodes.subset hcode⟩

/-- what is first under its id stays so: mappings are added behind it -/
theorem Retains.firstAt (h : s.Retains t) (hm : s.FirstAt i m) :
    ∃ m', t.FirstAt i m' ∧ m.Extends m' ∧ m'.status = m.status := by
  obtain ⟨m', hm', hext, hstatus⟩ := h i m hm.found
  refine ⟨m', ⟨hm', fun j n hj hn => ?_⟩, hext, hstatus⟩
  have hlt : j < s.length := Nat.lt_trans hj (List.getElem?_eq_some_iff.1 hm.found).1
  obtain ⟨n', hn', hext', -⟩ := h j s[j] (List.getElem?_eq_getElem hlt)
  rw [hn, Option.some.injEq] at hn'
  rw [hn', hext'.id, hext.id]
  exact hm.first j _ hj (List.getElem?_eq_getElem hlt)

/-- where ids are apart, each mapping is the first under its id -/
theorem firstAt_of_nodup (hids : (s.map (·.id)).Nodup) (hm : s[i]? = some m) : s.FirstAt i m := by
  refine ⟨hm, fun j n hj hn heq => ?_⟩
  obtain ⟨hi, rfl⟩ := List.getElem?_eq_some_iff.1 hm
  obtain ⟨hj', rfl⟩ := List.getElem?_eq_some_iff.1 hn
  exact List.pairwise_iff_getElem.1 (List.pairwise_map.1 hids) j i hj' hi hj heq

/-- a store whose ids are apart and that covers a code: what a later store finds for the code is the first under its id -/
theorem Retains.found_firstAt (h : s.Retains t) (hids : (s.map (·.id)).Nodup) (hcode : s.Covers code)
    (hm : t.get? (.equipmentCode code) = some m) : ∃ i, t.FirstAt i m := by
  obtain ⟨-, i, hi, hmi, hbefore⟩ := List.find?_eq_some_iff_getElem.1 hm
  obtain ⟨n, hn, hcovers⟩ := hcode
  obtain ⟨k, hk⟩ := List.mem_iff_getElem?.1 hn
  obtain ⟨n', hn', hext, -⟩ := h k n hk
  obtain ⟨hkt, rfl⟩ := List.getElem?_eq_some_iff.1 hn'
  -- the earlier store covers the code at place `k`, so the place found is not behind it
  have hle : i ≤ k := by
    refine Nat.le_of_not_lt fun hlt => ?_
    have hno := hbefore k hlt
    rw [Bool.not_eq_true'] at hno
    exact Bool.false_ne_true (hno.symm.trans (Mapping.covers_iff.2 (hext.equipmentCodes.subset hcovers)))
  have hlt : i < s.length := by
    have := (List.getElem?_eq_some_iff.1 hk).1
    omega
  obtain ⟨m', hm', -, -⟩ := h.firstAt (firstAt_of_nodup hids (List.getElem?_eq_getElem hlt))
  have hmm' : m' = m := by
    rw [← hmi]
    exact (Option.some.inj ((List.getElem?_eq_getElem hi).symm.trans hm'.found)).symm
  exact ⟨i, hmm' ▸ hm'⟩

theorem get?_of_covers (h : s.Covers code) : ∃ m, s.get? (.equipmentCode code) = some m := by
  obtain ⟨m, hm, hcode⟩ := h
  refine Option.isSome_iff_exists.1 (List.find?_isSome.2 ⟨m, hm, Mapping.covers_iff.2 hcode⟩)

/-! ## One place -/

theorem covers_iff_at (hm : s[i]? = some m) : s.Covers code ↔ code ∈ m.equipmentCodes ∨ Covers (s.eraseIdx i) code := by
  constructor
  · rintro ⟨n, hn, hcode⟩
    obtain ⟨j, hj⟩ := List.mem_iff_getElem?.1 hn
    by_cases hij : j = i
    · rw [hij, hm, Option.some.injEq] at hj
      exact Or.inl (hj ▸ hcode)
    · exact Or.inr ⟨n, List.mem_eraseIdx_iff_getElem?.2 ⟨j, hij, hj⟩, hcode⟩
  · rintro (hcode | ⟨n, hn, hcode⟩)
    · exact ⟨m, List.mem_of_getElem? hm, hcode⟩
    · exact ⟨n, List.mem_of_mem_eraseIdx hn, hcode⟩

/-- what is covered once another mapping is put in one place -/
theorem covers_set (hm : s[i]? = some m) :
    Covers (s.set i m') code ↔ code ∈ m'.equipmentCodes ∨ Covers (s.eraseIdx i) code := by
  have hi := (List.getElem?_eq_some_iff.1 hm).1
  rw [covers_iff_at (i := i) (m := m') (by simp [hi]), List.eraseIdx_set_eq]

theorem retains_set (hm : s[i]? = some m) (hext : m.Extends m') (hstatus : m'.status = m.status) :
    s.Retains (s.set i m') := by
  intro j n hn
  by_cases hij : i = j
  · subst hij
    rw [hm, Option.some.injEq] at hn
    subst hn
    exact ⟨m', by simp [(List.getElem?_eq_some_iff.1 hm).1], hext, hstatus⟩
  · exact ⟨n, by rw [List.getElem?_set_ne hij, hn], Mapping.Extends.refl n, rfl⟩

theorem FirstAt.set (hm : s.FirstAt i m) (hid : m'.id = m.id) : FirstAt (s.set i m') i m' := by
  refine ⟨by simp [(List.getElem?_eq_some_iff.1 hm.found).1], fun j n hj hn => ?_⟩
  rw [List.getElem?_set_ne (Nat.ne_of_gt hj)] at hn
  exact hid ▸ hm.first j n hj hn

theorem upsert_eq_set (hm : s.FirstAt i m) (hid : m'.id = m.id) : s.upsert m' = s.set i m' := by
  obtain ⟨hi, hmi⟩ := List.getElem?_eq_some_iff.1 hm.found
  have hs : s = s.take i ++ m :: s.drop (i + 1) := by
    rw [← hmi, List.getElem_cons_drop, List.take_append_drop]
  have hbefore : ∀ n ∈ s.take i, n.id ≠ m.id := by
    intro n hn
    obtain ⟨j, hj, rfl⟩ := List.mem_take_iff_getElem.1 hn
    exact hm.first j _ (by omega) (List.getElem?_eq_getElem _)
  calc s.upsert m'
      = upsert (s.take i ++ m :: s.drop (i + 1)) m' := by rw [← hs]
    _ = s.take i ++ m' :: s.drop (i + 1) := upsert_of_mem hid hbefore
    _ = s.set i m' := by rw [List.set_eq_take_append_cons_drop, if_pos hi]

/-! ## Provisioning -/

theorem provision_retains_places (s : Store) (id : Uuid) (c : Candidate) : s.Retains (s.provision id c).2 := by
  rcases provision_cases s id c with ⟨s1, m, s2, rfl, -, hp⟩ | ⟨-, hp⟩ <;> rw [hp]
  · have := retains_set (s := s1 ++ m :: s2) (i := s1.length) (by simp) (m.extends_join c.equipmentCode) (m.join_status _)
    simpa using this
  · intro i m hm
    exact ⟨m, by rw [List.getElem?_append_left (List.getElem?_eq_some_iff.1 hm).1, hm], Mapping.Extends.refl m, rfl⟩

theorem mem_join_iff {m : Mapping} {joined : String} :
    code ∈ (m.join joined).equipmentCodes ↔ code ∈ m.equipmentCodes ∨ code = joined := by
  unfold Mapping.join
  split_ifs with h
  · exact ⟨Or.inl, fun hcode => hcode.elim id fun heq => heq ▸ Mapping.covers_iff.1 h⟩
  · simp

/-- provisioning adds the candidate's code to what is covered, and no other -/
theorem provision_covers (s : Store) (id : Uuid) (c : Candidate) :
    Covers (s.provision id c).2 code ↔ s.Covers code ∨ code = c.equipmentCode := by
  rcases provision_cases s id c with ⟨s1, m, s2, rfl, -, hp⟩ | ⟨-, hp⟩ <;> rw [hp]
  · simp only [Covers, List.mem_append, List.mem_cons, or_and_right, exists_or, exists_eq_left, mem_join_iff]
    grind
  · simp [Covers, or_and_right, exists_or, Candidate.toMapping]

end Telemetry.Storage.Store
