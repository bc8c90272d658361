import Mathlib.Data.List.Nodup
import Mathlib.Data.List.Pairwise
import Telemetry.Channel.Store
/-
Changes of the stored definitions that keep ids and codes apart.

The store itself replaces by id and does not look at codes. `Change.Fits` says what the catalog sees to before it changes
anything: what is put has an id, and is either a new state of the definition with this id, under the same code, or new in id
and code. Such changes keep a store distinct (`Fits.distinct`), and a change under one code is not seen under any other
(`Fits.get?_code`).
-/
namespace Telemetry.Channel

namespace Store

/-- no two definitions have the same id or the same code; an id may be missing -/
structure Distinct (s : Store) : Prop where
  ids : s.Pairwise fun a b => a.id = b.id → a.id = none
  codes : (s.map (·.code)).Nodup

theorem Distinct.nil : Distinct [] :=
  ⟨List.Pairwise.nil, List.nodup_nil⟩

theorem Distinct.eq_of_id {s : Store} (h : s.Distinct) {a b : Definition} (ha : a ∈ s) (hb : b ∈ s)
    (hid : a.id = b.id) (hsome : a.id ≠ none) : a = b := by
  by_contra hne
  have hsymm : Std.Symm fun a b : Definition => a.id = b.id → a.id = none :=
    ⟨fun x y hxy hyx => hyx.trans (hxy hyx.symm)⟩
  exact hsome (h.ids.forall ha hb hne hid)

theorem get?_code_eq_none {s : Store} {code : String} :
    s.get? (.code code) = none ↔ ∀ d ∈ s, d.code ≠ code := by
  simp [get?, Filter.accepts]

/-- what is found under a code has this code -/
theorem code_of_get? {s : Store} {code : String} {d : Definition} (h : s.get? (.code code) = some d) : d.code = code := by
  have haccepts : (Filter.code code).accepts d = true := List.find?_some h
  simpa [Filter.accepts] using haccepts

/-- a definition is found under its code -/
theorem Distinct.get?_code {s : Store} (h : s.Distinct) {d : Definition} (hd : d ∈ s) : s.get? (.code d.code) = some d := by
  cases hfound : s.get? (.code d.code) with
  | none => exact absurd rfl (get?_code_eq_none.1 hfound d hd)
  | some found => rw [List.inj_on_of_nodup_map h.codes (List.mem_of_find?_eq_some hfound) hd (code_of_get? hfound)]

end Store

/-! ## Changes -/

/-- a change of the stored definitions, all of it under one code -/
inductive Change where
  | put (d : Definition)
  | remove (code : String)

namespace Change

def code : Change → String
  | .put d => d.code
  | .remove code => code

def apply (s : Store) : Change → Store
  | .put d => putRecord (fun old => old.id == d.id) d s
  | .remove code => s.delete (.code code)

/-- what is put has an id, and either stands for the definition with this id under the same code, or is new in both -/
def Fits (s : Store) : Change → Prop
  | .put d => d.id ≠ none ∧ ((∃ old ∈ s, old.id = d.id ∧ old.code = d.code) ∨
      ((∀ old ∈ s, old.id ≠ d.id) ∧ ∀ old ∈ s, old.code ≠ d.code))
  | .remove _ => True

/-- a fitting definition takes the place of the one with its id and code, or comes last -/
theorem Fits.put_cases {s : Store} {d : Definition} (h : Fits s (.put d)) (hs : s.Distinct) :
    (∃ s1 old s2, s = s1 ++ old :: s2 ∧ old.id = d.id ∧ old.code = d.code ∧ apply s (.put d) = s1 ++ d :: s2) ∨
      ((∀ old ∈ s, old.id ≠ d.id) ∧ (∀ old ∈ s, old.code ≠ d.code) ∧ apply s (.put d) = s ++ [d]) := by
  obtain ⟨hid, hfits⟩ := h
  rcases putRecord_cases (fun old : Definition => old.id == d.id) d s with ⟨s1, old, s2, rfl, hsame, hput⟩ | ⟨hnone, hput⟩
  · have holdid : old.id = d.id := by simpa using hsame
    refine Or.inl ⟨s1, old, s2, rfl, holdid, ?_, hput⟩
    rcases hfits with ⟨other, hother, hotherid, hothercode⟩ | ⟨hnew, -⟩
    · have heq : old = other :=
        hs.eq_of_id (by simp) hother (holdid.trans hotherid.symm) (by rw [holdid]; exact hid)
      rw [heq, hothercode]
    · exact absurd holdid (hnew old (by simp))
  · have hids : ∀ old ∈ s, old.id ≠ d.id := fun old hold => by simpa using hnone old hold
    refine Or.inr ⟨hids, ?_, hput⟩
    rcases hfits with ⟨old, hold, holdid, -⟩ | ⟨-, hcodes⟩
    · exact absurd holdid (hids old hold)
    · exact hcodes

/-- a fitting definition takes the place of the one with its code -/
theorem Fits.put_stored {s : Store} {d : Definition} (h : Fits s (.put d)) (hs : s.Distinct)
    (hd : ∃ old ∈ s, old.code = d.code) :
    apply s (.put d) = s.map fun old => if old.code = d.code then d else old := by
  rcases h.put_cases hs with ⟨s1, old, s2, rfl, -, hcode, hput⟩ | ⟨-, hnew, -⟩
  · have hcodes := hs.codes
    rw [List.map_append, List.map_cons, List.nodup_middle, List.nodup_cons, hcode, ← List.map_append] at hcodes
    have hothers : ∀ other ∈ s1 ++ s2, (if other.code = d.code then d else other) = other :=
      fun other hother => if_neg fun heq => hcodes.1 (List.mem_map.2 ⟨other, hother, heq⟩)
    rw [List.forall_mem_append] at hothers
    rw [hput, List.map_append, List.map_cons, if_pos hcode, List.map_congr_left hothers.1, List.map_congr_left hothers.2,
      List.map_id', List.map_id']
  · obtain ⟨old, hold, hcode⟩ := hd
    exact absurd hcode (hnew old hold)

/-- a fitting definition under a new code comes last -/
theorem Fits.put_new {s : Store} {d : Definition} (h : Fits s (.put d)) (hs : s.Distinct)
    (hd : ∀ old ∈ s, old.code ≠ d.code) : apply s (.put d) = s ++ [d] := by
  rcases h.put_cases hs with ⟨s1, old, s2, rfl, -, hcode, -⟩ | ⟨-, -, hput⟩
  · exact absurd hcode (hd old (by simp))
  · exact hput

/-- a fitting change keeps ids and codes apart -/
theorem Fits.distinct {s : Store} {c : Change} (h : Fits s c) (hs : s.Distinct) : (c.apply s).Distinct := by
  cases c with
  | remove code =>
    have hsub : List.Sublist (apply s (.remove code)) s := List.filter_sublist
    exact ⟨hs.ids.sublist hsub, hs.codes.sublist (hsub.map _)⟩
  | put d =>
    rcases h.put_cases hs with ⟨s1, old, s2, rfl, hid, hcode, hput⟩ | ⟨hids, hcodes, hput⟩
    · rw [hput]
      obtain ⟨hids, hcodes⟩ := hs
      refine ⟨?_, ?_⟩
      · simpa only [List.pairwise_append, List.pairwise_cons, List.forall_mem_cons, hid] using hids
      · simpa only [List.map_append, List.map_cons, hcode] using hcodes
    · rw [hput]
      refine ⟨List.pairwise_append.2 ⟨hs.ids, List.pairwise_singleton _ _, ?_⟩, ?_⟩
      · intro old hold new hnew heq
        rw [List.mem_singleton.1 hnew] at heq
        exact absurd heq (hids old hold)
      · rw [List.map_append, List.nodup_append]
        refine ⟨hs.codes, List.nodup_singleton _, ?_⟩
        intro code hold code' hnew
        obtain ⟨old, hmem, rfl⟩ := List.mem_map.1 hold
        rw [List.map_singleton, List.mem_singleton] at hnew
        rw [hnew]
        exact hcodes old hmem

/-- a fitting change is not seen under any other code -/
theorem Fits.get?_code {s : Store} {c : Change} (h : Fits s c) (hs : s.Distinct) {code : String} (hcode : code ≠ c.code) :
    (c.apply s).get? (.code code) = s.get? (.code code) := by
  have hother : ∀ d : Definition, d.code = c.code → (Filter.code code).accepts d = false := by
    intro d hd
    simpa [Filter.accepts, hd] using hcode.symm
  cases c with
  | remove removed =>
    simp only [apply, Store.delete, Store.get?, List.find?_filter]
    congr 1
    funext d
    by_cases hd : d.code = code
    · have hne : d.code ≠ removed := by rw [hd]; exact hcode
      simp [Filter.accepts, hd, hd ▸ hne]
    · simp [Filter.accepts, hd]
  | put d =>
    rcases h.put_cases hs with ⟨s1, old, s2, rfl, -, holdcode, hput⟩ | ⟨-, -, hput⟩
    · rw [hput]
      simp [Store.get?, List.find?_append, hother d rfl, hother old holdcode]
    · rw [hput]
      simp [Store.get?, List.find?_append, hother d rfl]

/-- what is stored after a change was stored before, or is what was put -/
theorem mem_apply {s : Store} {c : Change} {d : Definition} (hd : d ∈ c.apply s) : d ∈ s ∨ c = .put d := by
  cases c with
  | remove code => exact Or.inl (List.mem_filter.1 hd).1
  | put new =>
    rcases putRecord_cases (fun old : Definition => old.id == new.id) new s with ⟨s1, old, s2, rfl, -, hput⟩ | ⟨-, hput⟩
    · simp only [apply, hput, List.mem_append, List.mem_cons] at hd ⊢
      grind
    · simp only [apply, hput, List.mem_append, List.mem_singleton] at hd
      rcases hd with hd | rfl
      · exact Or.inl hd
      · exact Or.inr rfl

/-- what is put under a new code is found under it, whatever it replaces -/
theorem get?_code_put {s : Store} {d : Definition} (h : ∀ old ∈ s, old.code ≠ d.code) :
    (apply s (.put d)).get? (.code d.code) = some d := by
  have hbefore {before : Store} (hmem : ∀ old ∈ before, old.code ≠ d.code) :
      before.find? (Filter.code d.code).accepts = none :=
    Store.get?_code_eq_none.2 hmem
  have haccepts : (Filter.code d.code).accepts d = true := by simp [Filter.accepts]
  rcases putRecord_cases (fun old : Definition => old.id == d.id) d s with ⟨s1, old, s2, rfl, -, hput⟩ | ⟨-, hput⟩
  · rw [apply, hput, Store.get?, List.find?_append, hbefore fun old hold => h old (List.mem_append_left _ hold)]
    simp [haccepts]
  · rw [apply, hput, Store.get?, List.find?_append, hbefore h]
    simp [haccepts]

/-- what is put stands where it is put, and everything else is kept under its id and code -/
theorem Fits.put_retains {s : Store} {d : Definition} (h : Fits s (.put d)) (hs : s.Distinct) :
    ∀ old ∈ s, ∃ new ∈ apply s (.put d), new.id = old.id ∧ new.code = old.code := by
  intro old hold
  rcases h.put_cases hs with ⟨s1, replaced, s2, rfl, hid, hcode, hput⟩ | ⟨-, -, hput⟩
  · rw [hput]
    rcases List.mem_append.1 hold with h1 | h2
    · exact ⟨old, List.mem_append_left _ h1, rfl, rfl⟩
    · rcases List.mem_cons.1 h2 with rfl | h2
      · exact ⟨d, by simp, hid.symm, hcode.symm⟩
      · exact ⟨old, by simp [h2], rfl, rfl⟩
  · rw [hput]
    exact ⟨old, List.mem_append_left _ hold, rfl, rfl⟩

end Change

/-! ## Changes one after another -/

/-- the store after changes that fit one after another -/
inductive Applied : Store → List Change → Store → Prop
  | nil (s : Store) : Applied s [] s
  | cons {s t : Store} {c : Change} {cs : List Change} (hfits : c.Fits s) (hrest : Applied (c.apply s) cs t) :
      Applied s (c :: cs) t

namespace Applied

variable {s t u : Store} {cs cs' : List Change}

theorem eq_of_nil (h : Applied s [] t) : t = s := by
  generalize hcs : ([] : List Change) = cs at h
  cases h with
  | nil => rfl
  | cons => cases hcs

theorem of_cons {c : Change} (h : Applied s (c :: cs) t) : c.Fits s ∧ Applied (c.apply s) cs t := by
  cases h with
  | cons hfits hrest => exact ⟨hfits, hrest⟩

theorem append (h : Applied s cs t) (h' : Applied t cs' u) : Applied s (cs ++ cs') u := by
  induction h with
  | nil s => exact h'
  | cons hfits _ ih => exact .cons hfits (ih h')

theorem distinct (h : Applied s cs t) (hs : s.Distinct) : t.Distinct := by
  induction h with
  | nil s => exact hs
  | cons hfits _ ih => exact ih (hfits.distinct hs)

theorem get?_code (h : Applied s cs t) (hs : s.Distinct) {code : String} (hcode : ∀ c ∈ cs, code ≠ c.code) :
    t.get? (.code code) = s.get? (.code code) := by
  induction h with
  | nil s => rfl
  | cons hfits _ ih =>
    rw [List.forall_mem_cons] at hcode
    rw [ih (hfits.distinct hs) hcode.2, hfits.get?_code hs hcode.1]

theorem mem (h : Applied s cs t) {d : Definition} (hd : d ∈ t) : d ∈ s ∨ .put d ∈ cs ∧ d.id ≠ none := by
  induction h with
  | nil s => exact Or.inl hd
  | cons hfits _ ih =>
    rcases ih hd with hmid | ⟨hput, hid⟩
    · rcases Change.mem_apply hmid with hold | rfl
      · exact Or.inl hold
      · exact Or.inr ⟨List.mem_cons_self, hfits.1⟩
    · exact Or.inr ⟨List.mem_cons_of_mem _ hput, hid⟩

/-- changes that remove nothing keep every id and code -/
theorem retains (h : Applied s cs t) (hs : s.Distinct) (hputs : ∀ c ∈ cs, ∃ d, c = .put d) :
    ∀ old ∈ s, ∃ new ∈ t, new.id = old.id ∧ new.code = old.code := by
  induction h with
  | nil s => exact fun old hold => ⟨old, hold, rfl, rfl⟩
  | cons hfits _ ih =>
    intro old hold
    rw [List.forall_mem_cons] at hputs
    obtain ⟨d, rfl⟩ := hputs.1
    obtain ⟨mid, hmid, hid, hcode⟩ := hfits.put_retains hs old hold
    obtain ⟨new, hnew, hid', hcode'⟩ := ih (hfits.distinct hs) hputs.2 mid hmid
    exact ⟨new, hnew, hid'.trans hid, hcode'.trans hcode⟩

end Applied

end Telemetry.Channel
