import Mathlib.Data.List.Sort
import Telemetry.Proofs.Catalog.Aliases
import Telemetry.Proofs.Point.Cells
import Telemetry.Proofs.Service.ReadAfterWrite
/-
Listing the stored fields.

The historian tells the names of stored fields in any order and any number of times; each is described once, in ascending
order. A name is described by the stored channel of its code, if there is one. Otherwise it is taken for the alias of an
aggregated field if it looks like one: a function's name, an underscore and something more. Then the field inside it is
described instead, and never as the name itself would be (`Misread`).

- `fieldKeys_sortedDistinct`, `FieldKeys.unique`: what the names are does not depend on the order of the rows;
- `code_column_ne`: the field inside an alias has another code than the alias;
- `described_eq_ownChannel_iff`: which names are described by their own channel;
- `listed_fields`: what is listed.
-/
namespace Telemetry

open Program

/-! ## Names, once and in order -/

variable {name : String} {names : List String}

theorem foldl_insert_ascending (entries : List (String × Unit)) {m : SortedMap Unit} (h : m.keys.Pairwise (· < ·)) :
    (entries.foldl (fun m entry => m.insert entry.1 entry.2) m).keys.Pairwise (· < ·) := by
  induction entries generalizing m with
  | nil => exact h
  | cons entry entries ih => exact ih (SortedMap.insert_ascending h)

theorem mem_keys_foldl_insert (entries : List (String × Unit)) (m : SortedMap Unit) :
    name ∈ (entries.foldl (fun m entry => m.insert entry.1 entry.2) m).keys ↔ name ∈ m.keys ∨ name ∈ entries.map (·.1) := by
  induction entries generalizing m with
  | nil => simp
  | cons entry entries ih =>
    rw [List.foldl_cons, ih, SortedMap.mem_keys_insert, List.map_cons, List.mem_cons, or_assoc, or_left_comm]

theorem sortedDistinct_ascending (names : List String) : (sortedDistinct names).Pairwise (· < ·) :=
  foldl_insert_ascending _ .nil

theorem mem_sortedDistinct : name ∈ sortedDistinct names ↔ name ∈ names := by
  unfold sortedDistinct SortedMap.ofList
  rw [mem_keys_foldl_insert, List.map_map]
  simp [SortedMap.keys]

namespace Service

/-- the names of fields in some rows: each text under `fieldKey`, once and in ascending order -/
structure FieldKeys (rows : List Historian.Row) (keys : List String) : Prop where
  ascending : keys.Pairwise (· < ·)
  mem_iff : ∀ key, key ∈ keys ↔ ∃ row ∈ rows, row.lookup "fieldKey" = some (.string key)

theorem fieldKeyOf_eq_some_iff {row : Historian.Row} {key : String} :
    fieldKeyOf row = some key ↔ row.lookup "fieldKey" = some (.string key) := by
  rw [fieldKeyOf, fieldKeyColumn, Option.bind_eq_some_iff]
  constructor
  · rintro ⟨value, hvalue, hkey⟩
    cases value <;> cases hkey
    exact hvalue
  · intro h
    exact ⟨_, h, rfl⟩

theorem fieldKeys_sortedDistinct (rows : List Historian.Row) :
    FieldKeys rows (sortedDistinct (rows.filterMap fieldKeyOf)) := by
  refine ⟨sortedDistinct_ascending _, fun key => ?_⟩
  rw [mem_sortedDistinct, List.mem_filterMap]
  simp only [fieldKeyOf_eq_some_iff]

/-- rows with the same names have them in the same order -/
theorem FieldKeys.unique {rows : List Historian.Row} {keys keys' : List String} (h : FieldKeys rows keys)
    (h' : FieldKeys rows keys') : keys = keys' :=
  h.ascending.eq_of_mem_iff h'.ascending fun key => (h.mem_iff key).trans (h'.mem_iff key).symm

end Service

/-! ## Names that look like aliases -/

namespace Channel

open Query (Aggregation)

variable {column field : String}

/-- what looks like an alias is one -/
theorem withoutAggregation_eq_some_iff :
    withoutAggregation column = some field ↔ field ≠ "" ∧ ∃ f : Aggregation, column = f.column field := by
  constructor
  · intro h
    obtain ⟨f, -, hf⟩ := List.exists_of_findSome?_eq_some h
    split at hf
    · rename_i c rest hrest
      cases hf
      refine ⟨?_, f, ?_⟩
      · simp
      · rw [← String.toList_inj, toList_alias, eq_of_afterStart hrest, String.toList_ofList]
    · cases hf
  · rintro ⟨hfield, f, rfl⟩
    exact withoutAggregation_alias f hfield

/-- a column is longer than the field inside it -/
theorem column_ne (f : Aggregation) (field : String) : f.column field ≠ field := by
  intro h
  have hlength := congrArg (fun s : String => s.toList.length) h
  simp only [toList_alias, List.length_append, List.length_singleton] at hlength
  omega

/-- what is before the last point of an alias is an alias as well -/
theorem column_append (f : Aggregation) (code unit : String) :
    f.column (code ++ "." ++ unit) = f.column code ++ "." ++ unit := by
  simp only [Aggregation.column, String.append_assoc]

/-- an alias has another code than the field inside it -/
theorem code_column_ne (f : Aggregation) (hfield : field ≠ "") :
    (decodeFieldName (f.column field)).code ≠ (decodeFieldName field).code := by
  rcases whole_or_cut field with hwhole | ⟨code, unit, hcode, hunit, hpoint, rfl⟩
  · rw [decodeFieldName_of_whole hwhole]
    rcases whole_or_cut (f.column field) with hwhole' | ⟨code, unit, hcode, hunit, hpoint, hcut⟩
    · rw [decodeFieldName_of_whole hwhole']
      exact column_ne f field
    · -- the code of a cut name has lost a point, and the field has all points of its alias
      have hpoints := count_point_of_withoutAggregation (withoutAggregation_alias f hfield)
      rw [hcut, decodeFieldName_append hcode hunit hpoint]
      rintro rfl
      rw [hcut] at hpoints
      simp [String.toList_append] at hpoints
  · have hlong : f.column code ≠ "" := by
      intro h
      have hchars := congrArg String.toList h
      rw [toList_alias] at hchars
      simp at hchars
    rw [column_append, decodeFieldName_append hlong hunit hpoint, decodeFieldName_append hcode hunit hpoint]
    exact column_ne f code

end Channel

/-! ## Descriptions of names -/

namespace Catalog

open Channel Query

variable {w w' : World} {key field : String}

/-- the stored channel of a name's code, else what the name says -/
def ownChannel (w : World) (key : String) : Description :=
  ((w.definitions.get? (.code (decodeFieldName key).code)).map (·.description)).getD (decodeFieldName key)

/-- how the catalog describes a name -/
def described (w : World) (key : String) : Description :=
  ((firstKnown w (namesOf key)).map (·.description)).getD (decodeFieldName ((withoutAggregation key).getD key))

/-- no channel is stored for the name's code, and it looks like an alias -/
def Misread (w : World) (key : String) : Prop :=
  w.definitions.get? (.code (decodeFieldName key).code) = none ∧
    ∃ (f : Aggregation) (field : String), field ≠ "" ∧ key = f.column field

/-- only the definitions decide -/
theorem described_congr (h : w'.definitions = w.definitions) : described w' = described w := by
  funext key
  unfold described firstKnown
  rw [h]

theorem described_of_known {d : Definition} (h : w.definitions.get? (.code (decodeFieldName key).code) = some d) :
    described w key = ownChannel w key := by
  rw [described, namesOf, firstKnown, List.findSome?_cons, ownChannel, h]
  rfl

/-- a name that is not known is described as the field inside it -/
theorem described_of_alias (f : Aggregation) (hfield : field ≠ "")
    (h : w.definitions.get? (.code (decodeFieldName (f.column field)).code) = none) :
    described w (f.column field) = ownChannel w field := by
  rw [described, namesOf_alias f hfield, withoutAggregation_alias f hfield, firstKnown, List.findSome?_cons, h,
    List.findSome?_singleton, ownChannel]
  rfl

theorem described_of_plain (h : withoutAggregation key = none) : described w key = ownChannel w key := by
  rw [described, namesOf_of_plain h, h, firstKnown, List.findSome?_singleton, ownChannel]
  rfl

/-- the stored channel of a code has this code -/
theorem code_ownChannel (w : World) (key : String) : (ownChannel w key).code = (decodeFieldName key).code := by
  unfold ownChannel
  cases hfound : w.definitions.get? (.code (decodeFieldName key).code) with
  | none => rfl
  | some d => exact Store.code_of_get? hfound

/-- names are described by their own channel, unless they are misread -/
theorem described_eq_ownChannel_iff : described w key = ownChannel w key ↔ ¬ Misread w key := by
  constructor
  · rintro hown ⟨hunknown, f, field, hfield, rfl⟩
    rw [described_of_alias f hfield hunknown] at hown
    have hcode := congrArg Description.code hown
    rw [code_ownChannel, code_ownChannel] at hcode
    exact code_column_ne f hfield hcode.symm
  · intro h
    cases hfound : w.definitions.get? (.code (decodeFieldName key).code) with
    | some d => exact described_of_known hfound
    | none =>
      refine described_of_plain (Option.eq_none_iff_forall_ne_some.2 fun field hfield => h ⟨hfound, ?_⟩)
      obtain ⟨hfield, f, hkey⟩ := withoutAggregation_eq_some_iff.1 hfield
      exact ⟨f, field, hfield, hkey⟩

end Catalog

/-! ## The list -/

namespace Service

open Catalog

variable {w w1 w2 w3 w' : World} {names : List String}

/-- the names that are described are described one by one -/
theorem describeFields_found {ds : List Channel.Description} (hw : Coherent w)
    (h : (describeFields names).run w = (.ok ds, w')) : ds = names.map (described w) := by
  induction names generalizing w ds with
  | nil =>
    cases h
    rfl
  | cons name names ih =>
    obtain ⟨d, w1, hd, h⟩ := World.run_bind_ok.1 h
    obtain ⟨rest, w2, hrest, h⟩ := World.run_bind_ok.1 h
    cases h
    have hnew := (describe_looksUp name).nothingNew w
    rw [hd] at hnew
    have hsame : w1.definitions = w.definitions := hnew.definitions
    rw [ih (coherent_of_nothingNew hw hnew) hrest, described_congr hsame, describe_found hw hd]
    rfl

/-- where no store fails, all names are described -/
theorem describeFields_answer (hw : Coherent w) (hstores : w.faults.StoresNeverFail) (names : List String) :
    ((describeFields names).run w).1 = .ok (names.map (described w)) := by
  induction names generalizing w with
  | nil => rfl
  | cons name names ih =>
    have hanswer : ((Catalog.describe name).run w).1 = .ok (described w name) := describe_answer hw hstores name
    have hnew := (describe_looksUp name).nothingNew w
    have hfaults := (World.run_fixed (Catalog.describe name) w).2
    rcases hd : (Catalog.describe name).run w with ⟨answer, w1⟩
    rw [hd] at hanswer hnew hfaults
    cases hanswer
    have hsame : w1.definitions = w.definitions := hnew.definitions
    have hrest := ih (coherent_of_nothingNew hw hnew) (by rw [hfaults]; exact hstores)
    rw [describeFields, World.run_bind_of_ok hd, World.run_bind_pure, hrest, described_congr hsame]
    rfl

/-- finds the path of the equipment -/
def pathOf (service : Service) (wkeid : String) : Action (Option Storage.Path) := do
  let equipment ← equipmentFor wkeid
  Storage.routeRead service.supportContact equipment

theorem pathOf_noChannel (service : Service) (wkeid : String) : (pathOf service wkeid).Only CatalogSurroundings.NoChannel := by
  refine only_mono (fun _ => Call.Locates.noChannel) (only_bind (equipmentFor_within wkeid).only fun equipment => ?_)
  exact (Storage.routeRead_within service.supportContact equipment).only

variable {service : Service} {wkeid : String} {path : Storage.Path} {rows : List Historian.Row}

/-- once the historian has told the names, they are described -/
theorem fields_run (hpath : (pathOf service wkeid).run w = (.ok (some path), w1))
    (hrows : w1.answer (.historianRows (draftFor path wkeid).fieldKeys) = (.ok rows, w2)) :
    (service.fields wkeid).run w = (describeFields (sortedDistinct (rows.filterMap fieldKeyOf))).run w2 := by
  obtain ⟨equipment, w0, hequipment, hroute⟩ := World.run_bind_ok.1 hpath
  have hstored : (storedFields (draftFor path wkeid)).run w1 = (.ok (rows.filterMap fieldKeyOf), w2) :=
    (storedFields_ok (S := World.surroundings.toSurroundings)).2 ⟨rows, hrows, rfl⟩
  unfold fields
  rw [World.run_bind_of_ok hequipment, World.run_bind_of_ok hroute]
  exact World.run_bind_of_ok hstored

/-- finding the path and asking for the names teaches nothing about channels, and the same may fail as before -/
theorem nothingNew_of_rows {query : Query.Statement} (hpath : (pathOf service wkeid).run w = (.ok (some path), w1))
    (hrows : w1.answer (.historianRows query) = (.ok rows, w2)) :
    World.catalog.NothingNew w w2 ∧ w2.faults = w.faults := by
  have hlocated : World.catalog.NothingNew w ((pathOf service wkeid).run w).2 :=
    World.catalog.nothingNew_perform (pathOf_noChannel service wkeid) w
  have hanswered : World.catalog.NothingNew w1 (w1.answer (.historianRows query)).2 :=
    World.catalog.nothingNew_answer (by simp [Call.changes]) nofun
  have hfaults := (World.run_fixed (pathOf service wkeid) w).2
  have hfaults' := (World.answer_fixed w1 (.historianRows query)).2
  rw [hpath] at hlocated hfaults
  rw [hrows] at hanswered hfaults'
  exact ⟨hlocated.trans hanswered, hfaults'.trans hfaults⟩

/-- **How stored fields are listed.** Let the cache be coherent, let the equipment have a path, and let the historian answer
with any rows. The names in these rows are there once each and in ascending order. Where no store fails, each of them is
described, and whatever fails, a list that is given describes each. A name is described by the stored channel of its code, or
as it says if there is none, unless there is none and it looks like an alias: then it is described as the field inside it, which
never comes to the same. So the list is what the names say if and only if none of them is misread in this way. -/
theorem listed_fields (service : Service) (wkeid : String) (hw : Coherent w)
    (hpath : (pathOf service wkeid).run w = (.ok (some path), w1))
    (hrows : w1.answer (.historianRows (draftFor path wkeid).fieldKeys) = (.ok rows, w2)) :
    (∃ keys, FieldKeys rows keys) ∧
    (∀ keys, FieldKeys rows keys →
      (w.faults.StoresNeverFail → ((service.fields wkeid).run w).1 = .ok (keys.map (described w))) ∧
      ∀ ds w', (service.fields wkeid).run w = (.ok ds, w') →
        ds = keys.map (described w) ∧ (ds = keys.map (ownChannel w) ↔ ∀ key ∈ keys, ¬ Misread w key)) ∧
    ∀ key, (¬ Misread w key → described w key = ownChannel w key) ∧
      ∀ (f : Query.Aggregation) (field : String), field ≠ "" → key = f.column field → Misread w key →
        described w key = ownChannel w field ∧ described w key ≠ ownChannel w key := by
  obtain ⟨hnew, hfaults⟩ := nothingNew_of_rows hpath hrows
  have hcoherent := coherent_of_nothingNew hw hnew
  have hsame : w2.definitions = w.definitions := hnew.definitions
  have hrun := fields_run hpath hrows
  have hkeys := fieldKeys_sortedDistinct rows
  refine ⟨⟨_, hkeys⟩, fun keys h => ?_, fun key => ⟨described_eq_ownChannel_iff.2, ?_⟩⟩
  · obtain rfl := h.unique hkeys
    refine ⟨fun hstores => ?_, fun ds w' hds => ?_⟩
    · rw [← hfaults] at hstores
      rw [hrun, describeFields_answer hcoherent hstores, described_congr hsame]
    · rw [hrun] at hds
      have hlisted := describeFields_found hcoherent hds
      rw [described_congr hsame] at hlisted
      refine ⟨hlisted, ?_⟩
      rw [hlisted, List.map_inj_left]
      exact forall₂_congr fun key _ => described_eq_ownChannel_iff
  · rintro f field hfield rfl hmisread
    exact ⟨described_of_alias f hfield hmisread.1, mt described_eq_ownChannel_iff.1 (not_not_intro hmisread)⟩

/-- rows that tell some names of fields -/
def rowsOf (keys : List String) : List Historian.Row :=
  keys.map fun key => [("fieldKey", .string key)]

/-- the plant with a load in watts, where the historian has fields of some names -/
def keyedPlant (keys : List String) : World :=
  { plant with
    definitions := [{ code := "load", dimension := "power", unit := "W" }]
    historian := { rows := fun _ => rowsOf keys } }

/-- what is found for the fan comes once and in order, and a name that starts with a function's is described as the rest -/
theorem listed_fields_fan :
    let w := keyedPlant ["min_heat.K", "load.W", "flow.m3", "load.W"]
    Coherent w ∧ ((pathOf ⟨"ops", 24⟩ "M0:S0").run w).1 = .ok (some ⟨"FAN", "ACME", "E0"⟩) ∧ Misread w "min_heat.K" ∧
      ((fields ⟨"ops", 24⟩ "M0:S0").run w).1 = .ok [⟨"flow", "m3"⟩, ⟨"load", "W"⟩, ⟨"heat", "K"⟩] := by
  intro w
  have hcoherent : Coherent w := coherent_of_absent rfl
  have hpath : ((pathOf ⟨"ops", 24⟩ "M0:S0").run w).1 = .ok (some ⟨"FAN", "ACME", "E0"⟩) := by decide +kernel
  obtain ⟨-, hlisted, hnames⟩ := listed_fields ⟨"ops", 24⟩ "M0:S0" hcoherent (perform_of_fst hpath) rfl
  have hmisread : Misread w "min_heat.K" := ⟨by decide +kernel, .min, "heat.K", by decide, by decide⟩
  obtain ⟨hanswer, -⟩ := hlisted ["flow.m3", "load.W", "min_heat.K"] (fieldKeys_sortedDistinct _)
  obtain ⟨hheat, -⟩ := (hnames "min_heat.K").2 .min "heat.K" (by decide) (by decide) hmisread
  have hown : ownChannel w "heat.K" = ⟨"heat", "K"⟩ := by decide +kernel
  have hflow : described w "flow.m3" = ⟨"flow", "m3"⟩ := by decide +kernel
  have hload : described w "load.W" = ⟨"load", "W"⟩ := by decide +kernel
  refine ⟨hcoherent, hpath, hmisread, ?_⟩
  rw [hanswer fun _ _ => rfl, List.map_cons, List.map_cons, List.map_singleton, hflow, hload, hheat, hown]

/-- the name is none of a load, but it is described as one -/
theorem load_listed_twice :
    let w := keyedPlant ["max_load.kW", "load.W"]
    Coherent w ∧ ((pathOf ⟨"ops", 24⟩ "M0:S0").run w).1 = .ok (some ⟨"FAN", "ACME", "E0"⟩) ∧
      FieldKeys (rowsOf ["max_load.kW", "load.W"]) ["load.W", "max_load.kW"] ∧
      ((fields ⟨"ops", 24⟩ "M0:S0").run w).1 = .ok [⟨"load", "W"⟩, ⟨"load", "W"⟩] ∧
      ["load.W", "max_load.kW"].map (ownChannel w) = [⟨"load", "W"⟩, ⟨"max_load", "kW"⟩] :=
  ⟨coherent_of_absent rfl, by decide +kernel, fieldKeys_sortedDistinct _, by decide +kernel, by decide +kernel⟩

end Service

end Telemetry
