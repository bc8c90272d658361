import Telemetry.Proofs.Catalog.FieldNames
/-
Created channels, declared as they are defined.

A payload's declaration is trimmed before it is matched; a definition is checked for texts of blanks, but is stored as it
stands. So a channel whose code is padded is looked up under another code than it is stored under, and one whose unit or
dimension is padded does not agree with its own declaration.

- `create_ok`: what has happened when a definition was created;
- `matchDefinition_eq_ok_iff`: what a declared channel and its definition have in common;
- `created_channel_resolves`: which created channels are found by their own declaration;
- `padded_code_undefined`: one that is not.
-/
namespace Telemetry.Catalog

open Channel Payload Program Text

variable {w w' : World} {d stored : Definition} {c : DeclaredChannel} {r : Resolved}

/-! ## Creating -/

theorem upsert_ok (h : (Channel.upsert d).run w = (.ok stored, w')) :
    stored = d ∧ w'.definitions = Change.apply w.definitions (.put d) ∧ w'.channelCache = w.channelCache := by
  simp only [Channel.upsert, Program.run, perform, World.answer, World.onRepository] at h
  rcases hfault : w.faults.repository w.calls (.channelUpsert d) with _ | e <;> rw [hfault] at h
  · rcases hid : d.id with _ | id <;> simp only [World.upsertChannel, Store.upsert, hid] at h <;> cases h
    exact ⟨rfl, by simp only [Change.apply, hid], rfl⟩
  · cases h

/-- a definition was accepted: it is filled in, stored with an id, found under its code, and not cached under it -/
structure Created (w : World) (d stored : Definition) (w' : World) : Prop where
  complete : Complete w d
  withId : ∃ id, stored = { d with id := some id }
  found : w'.definitions.get? (.code d.code) = some stored
  cache : ∀ key held, w'.channelCache.Holds key held → w.channelCache.Holds key held ∧ key ≠ d.code

theorem create_ok (h : (create d).run w = (.ok stored, w')) : Created w d stored w' := by
  rw [create_eq] at h
  obtain ⟨_, w1, hexamine, h⟩ := World.run_bind_ok.1 h
  obtain ⟨id, w2, hid, h⟩ := World.run_bind_ok.1 h
  obtain ⟨kept, w3, hstore, h⟩ := World.run_bind_ok.1 h
  obtain ⟨_, w4, hevict, hdone⟩ := World.run_bind_ok.1 h
  have hsame := changed_of_inspects (examine_inspects d) w
  rw [hexamine] at hsame
  obtain ⟨hcomplete, hnew⟩ := examine_ok hexamine
  rw [← hsame.definitions_eq] at hnew
  cases hid
  obtain ⟨rfl, hdefinitions, hcache⟩ := upsert_ok hstore
  cases hevict
  cases hdone
  refine ⟨hcomplete, ⟨_, rfl⟩, ?_, fun key held hheld => ?_⟩
  · change w3.definitions.get? (.code d.code) = _
    rw [hdefinitions]
    exact Change.get?_code_put hnew
  · obtain ⟨hkey, hheld⟩ := ReadCache.holds_invalidate hheld
    rw [hcache] at hheld
    exact ⟨(hsame.cache key held hheld).1, hkey⟩

/-! ## Matching one channel -/

theorem checkMatches_eq_ok_iff {code property expected actual : String} :
    checkMatches code property expected actual = .ok () ↔ sameIgnoringCase expected actual = true := by
  unfold checkMatches
  split <;> simp_all

/-- a declared channel agrees with its definition in dimension and unit, up to case, and the definition has a field -/
theorem matchDefinition_eq_ok_iff :
    matchDefinition c d = .ok r ↔ sameIgnoringCase d.dimension c.dimension = true ∧ sameIgnoringCase d.unit c.unit = true ∧
      Resolved.of c.index d = .ok r := by
  constructor
  · intro h
    obtain ⟨_, hdimension, h⟩ := bind_eq_ok_iff.1 h
    obtain ⟨_, hunit, hof⟩ := bind_eq_ok_iff.1 h
    exact ⟨checkMatches_eq_ok_iff.1 hdimension, checkMatches_eq_ok_iff.1 hunit, hof⟩
  · rintro ⟨hdimension, hunit, hof⟩
    exact bind_eq_ok_iff.2 ⟨(), checkMatches_eq_ok_iff.2 hdimension, bind_eq_ok_iff.2 ⟨(), checkMatches_eq_ok_iff.2 hunit, hof⟩⟩

/-- a channel that is declared alone is matched with what is found under its code -/
theorem resolve_single (c : DeclaredChannel) (w : World) :
    ((Channel.resolve [c]).run w).1 = ((get c.code .cached).run w).1.bind fun found =>
      (matchFound c found).map fun r => [r] := by
  change ((Channel.lookUp [c]).run w).1 = _
  rw [lookUp_cons]
  rcases hget : (get c.code .cached).run w with ⟨e | found, w1⟩
  · rw [World.run_bind_of_error hget]
    rfl
  · rw [World.run_bind_of_ok hget]
    change _ = (matchFound c found).map fun r => [r]
    cases matchFound c found <;> rfl

theorem resolve_single_ok :
    ((Channel.resolve [c]).run w).1 = .ok [r] ↔
      ((get c.code .cached).run w).1 = .ok (some r.definition) ∧ matchDefinition c r.definition = .ok r := by
  rw [resolve_single]
  constructor
  · intro h
    obtain ⟨found, hget, hmap⟩ := bind_eq_ok_iff.1 h
    obtain ⟨matched, hmatch, heq⟩ := map_eq_ok_iff.1 hmap
    cases heq
    obtain ⟨rfl, -⟩ := matchFound_ok hmatch
    exact ⟨hget, hmatch⟩
  · rintro ⟨hget, hmatch⟩
    exact bind_eq_ok_iff.2 ⟨_, hget, map_eq_ok_iff.2 ⟨r, hmatch, rfl⟩⟩

/-! ## Created channels -/

/-- a look-up finds a definition of the code, where nothing is cached under another code than its own -/
theorem code_of_looked_up {code : String} (hcached : ∀ key held, w.channelCache.Holds key held → held.code = key)
    (h : ((get code .cached).run w).1 = .ok (some d)) : d.code = code := by
  have hlookedUp := lookedUp w code
  generalize (get code .cached).run w = x at h hlookedUp
  cases hlookedUp with
  | hit _ hheld =>
    cases h
    exact hcached code d hheld
  | failed | missing => cases h
  | found _ hfound =>
    cases h
    exact Store.code_of_get? hfound

namespace Created

theorem code (h : Created w d stored w') : stored.code = d.code := by
  obtain ⟨id, rfl⟩ := h.withId
  rfl

theorem unit (h : Created w d stored w') : stored.unit = d.unit := by
  obtain ⟨id, rfl⟩ := h.withId
  rfl

theorem dimension (h : Created w d stored w') : stored.dimension = d.dimension := by
  obtain ⟨id, rfl⟩ := h.withId
  rfl

/-- a created definition is looked up in the store, not in the cache -/
theorem get (h : Created w d stored w')
    (hlookUp : w'.faults.repository w'.calls (.channelGet (.code d.code)) = none) :
    ((Catalog.get d.code .cached).run w').1 = .ok (some stored) := by
  have hmiss : (w'.channelCache.get d.code).1 = none := by
    cases hfound : (w'.channelCache.get d.code).1 with
    | none => rfl
    | some held => exact absurd rfl (h.cache d.code held (ReadCache.get_found hfound)).2
  rw [get_answer, hmiss, hlookUp, h.found]

theorem resolved (h : Created w d stored w') (index : Nat) :
    Resolved.of index stored = .ok ⟨index, stored, encodeFieldName d.code d.unit⟩ := by
  obtain ⟨id, rfl⟩ := h.withId
  have hname := h.complete.fieldName
  rw [Resolved.of]
  change (d.fieldName.map _) = _
  rw [hname]
  rfl

end Created

/-- **Which created channels can be declared.** Take any definition that is created in any world. The payload channel with its
code, unit and dimension, declared alone at any index, is accepted. If neither of these texts has a blank at an end, and the
store does not fail the look-up, then the declared channel is matched with the definition that was created. If one of them
has, and the cache was coherent, it never is. -/
theorem created_channel_resolves (w w' : World) (d stored : Definition) (index : Option Nat)
    (hcreate : (create d).run w = (.ok stored, w'))
    (hlookUp : w'.faults.repository w'.calls (.channelGet (.code d.code)) = none) :
    ∃ declared, parseChannels [⟨index.map Int.ofNat, d.code, d.unit, d.dimension⟩] = .ok [declared] ∧
      (Unpadded d.code ∧ Unpadded d.unit ∧ Unpadded d.dimension →
        ∃ r, ((Channel.resolve [declared]).run w').1 = .ok [r] ∧ r.definition = stored) ∧
      (Coherent w → ∀ r, ((Channel.resolve [declared]).run w').1 = .ok [r] → r.definition = stored →
        Unpadded d.code ∧ Unpadded d.unit ∧ Unpadded d.dimension) := by
  have hcreated := create_ok hcreate
  refine ⟨_, parseChannels_single hcreated.complete.code index d.unit d.dimension, ?_, ?_⟩
  · rintro ⟨hcode, hunit, hdimension⟩
    rw [trim_eq_self_iff.2 hcode, trim_eq_self_iff.2 hunit, trim_eq_self_iff.2 hdimension]
    refine ⟨⟨index.getD 0, stored, encodeFieldName d.code d.unit⟩, resolve_single_ok.2 ⟨hcreated.get hlookUp, ?_⟩, rfl⟩
    refine matchDefinition_eq_ok_iff.2 ⟨?_, ?_, hcreated.resolved _⟩
    · rw [hcreated.dimension]
      exact sameIgnoringCase_self _
    · rw [hcreated.unit]
      exact sameIgnoringCase_self _
  · rintro hw r hresolve rfl
    obtain ⟨hget, hmatch⟩ := resolve_single_ok.1 hresolve
    obtain ⟨hdimension, hunit, -⟩ := matchDefinition_eq_ok_iff.1 hmatch
    have hcode : r.definition.code = trim d.code := by
      refine code_of_looked_up (fun key held hheld => ?_) hget
      exact Store.code_of_get? (hw key held (hcreated.cache key held hheld).1)
    rw [hcreated.code] at hcode
    rw [hcreated.dimension] at hdimension
    rw [hcreated.unit] at hunit
    exact ⟨trim_eq_self_iff.1 hcode.symm, sameIgnoringCase_trim_iff.1 hunit, sameIgnoringCase_trim_iff.1 hdimension⟩

def createdLoad : Definition := { pumpLoad with id := some (.ofNat 0) }

/-- the load is declared as it is defined, and found -/
theorem created_channel_resolves_load :
    ((create pumpLoad).run emptyPlant).1 = .ok createdLoad ∧
      ∃ r, ((Channel.resolve [⟨0, "load", "kW", "power"⟩]).run ((create pumpLoad).run emptyPlant).2).1 = .ok [r] ∧
        r.definition = createdLoad := by
  have hcreate : ((create pumpLoad).run emptyPlant).1 = .ok createdLoad := by decide +kernel
  obtain ⟨declared, hdeclared, hresolves, -⟩ :=
    created_channel_resolves emptyPlant ((create pumpLoad).run emptyPlant).2 pumpLoad createdLoad none (Prod.ext hcreate rfl) rfl
  have hunpadded : Unpadded "load" ∧ Unpadded "kW" ∧ Unpadded "power" := by
    simp only [← trim_eq_self_iff]
    decide +kernel
  have hparsed : parseChannels [⟨none, "load", "kW", "power"⟩] = .ok [⟨0, "load", "kW", "power"⟩] := by decide +kernel
  cases hdeclared.symm.trans hparsed
  exact ⟨hcreate, hresolves hunpadded⟩

/-- the load with a blank before its code -/
def paddedLoad : Definition := { code := " load", dimension := "power", unit := "kW" }

/-- the load is created under its padded code; declared with this code, it is undefined -/
theorem padded_code_undefined :
    Coherent emptyPlant ∧ ((create paddedLoad).run emptyPlant).1 = .ok { paddedLoad with id := some (.ofNat 0) } ∧
      parseChannels [⟨none, " load", "kW", "power"⟩] = .ok [⟨0, "load", "kW", "power"⟩] ∧
      ((Channel.resolve [⟨0, "load", "kW", "power"⟩]).run ((create paddedLoad).run emptyPlant).2).1 =
        .error (.undefinedChannel "load") := by
  refine ⟨coherent_of_empty rfl, ?_, ?_, ?_⟩ <;> decide +kernel

end Telemetry.Catalog
