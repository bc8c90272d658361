import Telemetry.Proofs.Storage.ReadAfterWrite
/-
Classifications of blank codes.

Of several classifications of a kind the first one counts, and it counts as missing if its code is blank. To take blank
classifications away is something else where a blank one stands in front of one that is not (`Shadowed`): then the equipment
has no code of this kind, and would have one without the blank.

- `shadowed_iff`: which codes an equipment has only without its blank classifications;
- `route_congr`: what of an equipment its route depends on;
- `blank_classifications`: which equipment has the same codes and the same routes without its blank classifications;
- `blank_brand_in_front`: one that has not.
-/
namespace Telemetry

open Text

namespace Equipment

/-- the equipment without its classifications of blank codes -/
def withoutBlanks (e : Equipment) : Equipment :=
  { e with classifications := e.classifications.filter fun c => !isBlankText c.code }

/-- the first classification of a kind is blank, and a later one of this kind is not -/
def Shadowed (e : Equipment) (kind : ClassificationKind) : Prop :=
  ∃ before blank after, e.classifications = before ++ blank :: after ∧ (∀ c ∈ before, c.kind ≠ kind) ∧
    blank.kind = kind ∧ isBlankText blank.code = true ∧ ∃ c ∈ after, c.kind = kind ∧ isBlankText c.code = false

/-- A blank classification in front of another decides where the equipment is stored: one of its system, or one of its brand
or its technology where all three would have codes. -/
def ShadowedOnRoute (e : Equipment) : Prop :=
  e.Shadowed .equipmentSystem ∨
    e.equipmentCode ≠ none ∧ (e.Shadowed .brand ∨ e.Shadowed .technology) ∧
      e.withoutBlanks.brandCode ≠ none ∧ e.withoutBlanks.technologyCode ≠ none

variable {e : Equipment} {kind : ClassificationKind} {code : String}

/-! ## Codes -/

theorem classification_eq_some_iff : e.classification kind = some code ↔
    ∃ before c after, e.classifications = before ++ c :: after ∧ (∀ b ∈ before, b.kind ≠ kind) ∧ c.kind = kind ∧
      isBlankText c.code = false ∧ c.code = code := by
  unfold classification
  rw [Option.filter_eq_some_iff, Option.map_eq_some_iff]
  simp only [List.find?_eq_some_iff_append, beq_iff_eq, Bool.not_eq_true', beq_eq_false_iff_ne]
  constructor
  · rintro ⟨⟨c, ⟨hkind, before, after, hsplit, hbefore⟩, rfl⟩, hblank⟩
    exact ⟨before, c, after, hsplit, hbefore, hkind, hblank, rfl⟩
  · rintro ⟨before, c, after, hsplit, hbefore, hkind, hblank, rfl⟩
    exact ⟨⟨c, ⟨hkind, before, after, hsplit, hbefore⟩, rfl⟩, hblank⟩

/-- a code stays when blank classifications are taken away -/
theorem withoutBlanks_of_some (h : e.classification kind = some code) : e.withoutBlanks.classification kind = some code := by
  obtain ⟨before, c, after, hsplit, hbefore, hkind, hblank, hcode⟩ := classification_eq_some_iff.1 h
  refine classification_eq_some_iff.2 ⟨before.filter fun c => !isBlankText c.code, c,
    after.filter fun c => !isBlankText c.code, ?_, ?_, hkind, hblank, hcode⟩
  · rw [withoutBlanks, hsplit, List.filter_append, List.filter_cons_of_pos (by simp [hblank])]
  · intro b hb
    exact hbefore b (List.mem_filter.1 hb).1

/-- without blank classifications there is a code of a kind if any classification of the kind is not blank -/
theorem withoutBlanks_ne_none_iff : e.withoutBlanks.classification kind ≠ none ↔
    ∃ c ∈ e.classifications, c.kind = kind ∧ isBlankText c.code = false := by
  constructor
  · intro h
    obtain ⟨code, hcode⟩ := Option.ne_none_iff_exists'.1 h
    obtain ⟨before, c, after, hsplit, -, hkind, hblank, -⟩ := classification_eq_some_iff.1 hcode
    have hc : c ∈ e.withoutBlanks.classifications := by
      rw [hsplit]
      simp
    exact ⟨c, (List.mem_filter.1 hc).1, hkind, hblank⟩
  · rintro ⟨c, hc, hkind, hblank⟩
    have hkept : c ∈ e.withoutBlanks.classifications := List.mem_filter.2 ⟨hc, by simp [hblank]⟩
    obtain ⟨first, hfirst⟩ := Option.isSome_iff_exists.1
      (List.find?_isSome.2 ⟨c, hkept, by simp [hkind]⟩ : (e.withoutBlanks.classifications.find? fun c => c.kind == kind).isSome)
    have hcode : isBlankText first.code = false := by
      simpa using (List.mem_filter.1 (List.mem_of_find?_eq_some hfirst)).2
    unfold classification
    rw [hfirst]
    simp [hcode]

/-- a kind is shadowed if there is a code of it without blank classifications only -/
theorem shadowed_iff : e.Shadowed kind ↔ e.classification kind = none ∧ e.withoutBlanks.classification kind ≠ none := by
  rw [withoutBlanks_ne_none_iff]
  constructor
  · rintro ⟨before, blank, after, hsplit, hbefore, hkind, hblank, c, hc, hckind, hcode⟩
    have hfirst : e.classifications.find? (fun c => c.kind == kind) = some blank :=
      List.find?_eq_some_iff_append.2 ⟨by simp [hkind], before, after, hsplit, fun b hb => by simp [hbefore b hb]⟩
    refine ⟨?_, c, ?_, hckind, hcode⟩
    · unfold classification
      rw [hfirst]
      simp [hblank]
    · rw [hsplit]
      exact List.mem_append_right before (List.mem_cons_of_mem blank hc)
  · rintro ⟨hnone, c, hc, hkind, hcode⟩
    obtain ⟨first, hfirst⟩ := Option.isSome_iff_exists.1
      (List.find?_isSome.2 ⟨c, hc, by simp [hkind]⟩ : (e.classifications.find? fun c => c.kind == kind).isSome)
    obtain ⟨hfirstKind, before, after, hsplit, hbefore⟩ := List.find?_eq_some_iff_append.1 hfirst
    have hblank : isBlankText first.code = true := by
      unfold classification at hnone
      rw [hfirst] at hnone
      simpa using hnone
    refine ⟨before, first, after, hsplit, fun b hb => by simpa using hbefore b hb, by simpa using hfirstKind, hblank, c, ?_,
      hkind, hcode⟩
    -- it is none of those before the first of the kind, and not the first one either
    rw [hsplit, List.mem_append, List.mem_cons] at hc
    rcases hc with hc | rfl | hc
    · exact absurd hkind (by simpa using hbefore c hc)
    · rw [hblank] at hcode
      cases hcode
    · exact hc

/-- the code of a kind is the same without blank classifications, unless the kind is shadowed -/
theorem withoutBlanks_eq_iff : e.withoutBlanks.classification kind = e.classification kind ↔ ¬ e.Shadowed kind := by
  rw [shadowed_iff]
  cases hcode : e.classification kind with
  | some code => simp [withoutBlanks_of_some hcode]
  | none => simp

end Equipment

namespace Storage

open Program

variable {e e' : Equipment}

/-! ## Routes -/

/-- nothing is suggested for an equipment without a brand or without a technology -/
theorem suggest_of_missing (h : e.brandCode = none ∨ e.technologyCode = none) (code : String) : suggest e code = pure none := by
  unfold suggest
  rcases h with h | h
  · rw [h]
  · rw [h]
    cases e.brandCode <;> rfl

theorem suggest_congr (hbrand : e'.brandCode = e.brandCode) (htechnology : e'.technologyCode = e.technologyCode)
    (code : String) : suggest e' code = suggest e code := by
  unfold suggest
  rw [hbrand, htechnology]

/-- the route of an equipment depends on its id, its code, and what is suggested for its code -/
theorem route_congr (hid : e'.wkeid = e.wkeid) (hcode : e'.equipmentCode = e.equipmentCode)
    (hsuggest : ∀ code, e.equipmentCode = some code → suggest e' code = suggest e code) (contact : String)
    (purpose : Purpose) : route contact e' purpose = route contact e purpose := by
  unfold route checkEnabled
  rw [hcode, hid]
  cases h : e.equipmentCode with
  | none => rfl
  | some code =>
    simp only [hsuggest code h]

/-- without blank classifications an equipment is routed as it is with them, unless one of them decides its route -/
theorem route_withoutBlanks (h : ¬ e.ShadowedOnRoute) (contact : String) (purpose : Purpose) :
    route contact e.withoutBlanks purpose = route contact e purpose := by
  unfold Equipment.ShadowedOnRoute at h
  push Not at h
  obtain ⟨hsystem, hsuggested⟩ := h
  have hid : e.withoutBlanks.wkeid = e.wkeid := rfl
  have hsame : e.withoutBlanks.equipmentCode = e.equipmentCode := Equipment.withoutBlanks_eq_iff.2 hsystem
  refine route_congr hid hsame (fun code hcode => ?_) contact purpose
  by_cases hshadowed : e.Shadowed .brand ∨ e.Shadowed .technology
  · -- then one of the two is missing even without blanks, and so it is with them
    have hmissing : e.withoutBlanks.brandCode = none ∨ e.withoutBlanks.technologyCode = none := by
      by_contra hno
      push Not at hno
      exact hno.2 (hsuggested (by simp [hcode]) hshadowed hno.1)
    have hkept (kind : ClassificationKind) (hnone : e.withoutBlanks.classification kind = none) :
        e.classification kind = none := by
      cases hcode : e.classification kind with
      | none => rfl
      | some code => rw [Equipment.withoutBlanks_of_some hcode] at hnone; cases hnone
    rw [suggest_of_missing hmissing, suggest_of_missing (hmissing.imp (hkept .brand) (hkept .technology))]
  · push Not at hshadowed
    exact suggest_congr (Equipment.withoutBlanks_eq_iff.2 hshadowed.1) (Equipment.withoutBlanks_eq_iff.2 hshadowed.2) code

theorem lookUp_in_empty (code : String) : (lookUp code .read).run {} = (.ok none, { calls := [.mappingGet (.equipmentCode code)] }) :=
  rfl

/-- nothing is stored, and the hierarchy is empty: an equipment with all its codes cannot be routed -/
theorem routeRead_of_unknown {code brand technology : String} (hcode : e.equipmentCode = some code)
    (hbrand : e.brandCode = some brand) (htechnology : e.technologyCode = some technology) (contact : String) :
    ((routeRead contact e).run {}).1 = .error (.hierarchyCodeNotFound brand) := by
  rw [routeRead_of_code hcode, World.run_bind_of_ok (lookUp_in_empty code), readPath, suggestedPath, suggest, hbrand,
    htechnology]
  rfl

/-- nothing is stored: an equipment without a brand or without a technology has no path -/
theorem routeRead_of_missing {code : String} (hcode : e.equipmentCode = some code)
    (h : e.brandCode = none ∨ e.technologyCode = none) (contact : String) : ((routeRead contact e).run {}).1 = .ok none := by
  rw [routeRead_of_code hcode, World.run_bind_of_ok (lookUp_in_empty code), readPath, suggestedPath, suggest_of_missing h]
  rfl

/-- where a blank classification decides the route, there are mappings or a hierarchy that show it -/
theorem exists_route_ne (h : e.ShadowedOnRoute) (contact : String) :
    ∃ w : World, ((route contact e.withoutBlanks .read).run w).1 ≠ ((route contact e .read).run w).1 := by
  rcases h with hsystem | ⟨hcode, hshadowed, hbrand, htechnology⟩
  · obtain ⟨hnone, hsome⟩ := Equipment.shadowed_iff.1 hsystem
    obtain ⟨code, hcode⟩ := Option.ne_none_iff_exists'.1 hsome
    let m : Mapping := { fanMapping with equipmentCodes := [code] }
    have hleads : LeadsTo { mappings := [m] } code (m.pathFor code) := by
      refine ⟨⟨m, ?_, rfl⟩, fun m' hheld => (ReadCache.not_holds_absent code m' hheld).elim⟩
      simp [Store.get?, Filter.accepts, Mapping.covers, m]
    obtain ⟨w1, hroute⟩ := routeRead_of_leadsTo contact hleads hcode fun _ _ => rfl
    refine ⟨{ mappings := [m] }, ?_⟩
    change ((routeRead contact e.withoutBlanks).run _).1 ≠ ((routeRead contact e).run _).1
    rw [hroute, routeRead_of_no_code hnone]
    intro hsame
    cases hsame
  · obtain ⟨code, hcode⟩ := Option.ne_none_iff_exists'.1 hcode
    obtain ⟨brand, hbrand⟩ := Option.ne_none_iff_exists'.1 hbrand
    obtain ⟨technology, htechnology⟩ := Option.ne_none_iff_exists'.1 htechnology
    have hmissing : e.brandCode = none ∨ e.technologyCode = none :=
      hshadowed.imp (fun h => (Equipment.shadowed_iff.1 h).1) fun h => (Equipment.shadowed_iff.1 h).1
    refine ⟨{}, ?_⟩
    change ((routeRead contact e.withoutBlanks).run _).1 ≠ ((routeRead contact e).run _).1
    rw [routeRead_of_unknown (Equipment.withoutBlanks_of_some hcode) hbrand htechnology, routeRead_of_missing hcode hmissing]
    intro hsame
    cases hsame

/-- **When blank classifications count as missing.** Take any equipment, with any classifications in any order. It has the
same code of a kind without its blank classifications exactly if the first classification of the kind is not a blank one in
front of one that is not blank. Reads and writes find the same path, or fail in the same way, without the blank
classifications, for all stored mappings, caches and hierarchies, exactly if no such blank decides the route; and then they
also leave everything the same. -/
theorem blank_classifications (e : Equipment) :
    (∀ kind, e.withoutBlanks.classification kind = e.classification kind ↔ ¬ e.Shadowed kind) ∧
    ((∀ contact purpose (w : World),
        ((route contact e.withoutBlanks purpose).run w).1 = ((route contact e purpose).run w).1) ↔ ¬ e.ShadowedOnRoute) ∧
    (¬ e.ShadowedOnRoute → ∀ contact purpose (w : World),
      (route contact e.withoutBlanks purpose).run w = (route contact e purpose).run w) := by
  have hsame (h : ¬ e.ShadowedOnRoute) (contact : String) (purpose : Purpose) (w : World) :
      (route contact e.withoutBlanks purpose).run w = (route contact e purpose).run w := by
    rw [route_withoutBlanks h]
  refine ⟨fun kind => Equipment.withoutBlanks_eq_iff, ⟨fun hanswers hshadowed => ?_, fun h contact purpose w => ?_⟩, hsame⟩
  · obtain ⟨w, hne⟩ := exists_route_ne hshadowed ""
    exact hne (hanswers "" .read w)
  · rw [hsame h]

def pumpBehindBlank : Equipment :=
  { pump with classifications := [⟨.equipmentSystem, "E1"⟩, ⟨.brand, " "⟩, ⟨.brand, "B1"⟩, ⟨.technology, "T1"⟩] }

/-- The pump has no brand because of the blank in front of it, and so no path; without the blank it has both. -/
theorem blank_brand_in_front :
    pumpBehindBlank.brandCode = none ∧ pumpBehindBlank.withoutBlanks.brandCode = some "B1" ∧
      ((route "support" pumpBehindBlank .read).run plant).1 = .ok none ∧
      ((route "support" pumpBehindBlank.withoutBlanks .read).run plant).1 = .ok (some ⟨"PUMP", "ACME", "E1"⟩) := by
  refine ⟨?_, ?_, ?_, ?_⟩ <;> decide +kernel

end Storage

end Telemetry
