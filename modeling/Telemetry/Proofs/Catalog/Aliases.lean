import Telemetry.Proofs.Catalog.Descriptions
import Telemetry.Proofs.Query.Rendering
/-
Aggregated columns, and the fields inside them.

A query names the column of an aggregated field by the function's name, an underscore and the field. No function has an
underscore in its name, so none but the function itself is taken off the alias, and the field is left. A catalog that does
not know the alias as a field goes on with the field inside it, and so describes both alike.

- `withoutAggregation_alias`: an alias leads back to its field;
- `describe_alias`: describing an alias is looking it up, and then describing the field;
- `aliases_described`: both, and what they come to for the answers.
-/
namespace Telemetry

/-- the name of the column of an aggregated field -/
def Query.Aggregation.column (f : Query.Aggregation) (field : String) : String :=
  f.name ++ "_" ++ field

namespace Query

theorem Aggregation.underscore_not_mem_name (f : Aggregation) : '_' ∉ f.name.toList := by
  cases f <;> decide

theorem Aggregation.mem_all (f : Aggregation) : f ∈ all := by
  cases f <;> decide

/-- an aggregated field is shown under its alias -/
theorem fieldColumns_aggregated {d : Draft} {f : Aggregation} {fields : List String} {columns : String}
    (hf : d.aggregation = some f) (h : d.fieldColumns fields = .ok columns) :
    columns = Text.joinWith "," (fields.map fun field =>
      f.name ++ "(" ++ quoteIdentifier field ++ ") AS " ++ quoteIdentifier (f.column field)) := by
  rw [Draft.fieldColumns_ok h, Draft.shownNames, hf, if_neg (by simp)]
  rfl

end Query

namespace Channel

open Query (Aggregation)

variable {start rest name field : List Char}

theorem afterStart_append (start rest : List Char) : afterStart start (start ++ rest) = some rest := by
  induction start with
  | nil => rfl
  | cons c start ih => rw [List.cons_append, afterStart, if_pos rfl, ih]

/-- what is before the first underscore of a text -/
theorem start_eq_of_underscore (hstart : '_' ∉ start) (hname : '_' ∉ name)
    (h : start ++ '_' :: rest = name ++ '_' :: field) : start = name ∧ rest = field := by
  induction start generalizing name with
  | nil =>
    cases name with
    | nil => exact ⟨rfl, List.tail_eq_of_cons_eq h⟩
    | cons c name =>
      obtain ⟨rfl, -⟩ := List.cons.inj h
      exact absurd List.mem_cons_self hname
  | cons s start ih =>
    obtain ⟨hs, hstart⟩ := not_or.1 (mt List.mem_cons.2 hstart)
    cases name with
    | nil => exact absurd (List.cons.inj h).1.symm hs
    | cons c name =>
      obtain ⟨rfl, hrest⟩ := List.cons.inj h
      obtain ⟨rfl, hfield⟩ := ih hstart (fun hmem => hname (List.mem_cons_of_mem _ hmem)) hrest
      exact ⟨rfl, hfield⟩

theorem toList_alias (f : Aggregation) (field : String) :
    (f.column field).toList = f.name.toList ++ ['_'] ++ field.toList := by
  rw [Aggregation.column, String.toList_append, String.toList_append]
  rfl

/-- only the function itself is taken off an alias -/
theorem afterStart_alias {f g : Aggregation} {field : String} {rest : List Char}
    (h : afterStart (g.name.toList ++ ['_']) (f.column field).toList = some rest) : rest = field.toList := by
  have hsplit := eq_of_afterStart h
  rw [toList_alias, List.append_assoc, List.append_assoc] at hsplit
  exact (start_eq_of_underscore g.underscore_not_mem_name f.underscore_not_mem_name hsplit.symm).2

/-- an alias leads back to its field -/
theorem withoutAggregation_alias (f : Aggregation) {field : String} (hfield : field ≠ "") :
    withoutAggregation (f.column field) = some field := by
  have hown : afterStart (f.name.toList ++ ['_']) (f.column field).toList = some field.toList := by
    rw [toList_alias, afterStart_append]
  rcases hchars : field.toList with _ | ⟨c, cs⟩
  · exact absurd (String.toList_eq_nil_iff.1 hchars) hfield
  · cases hfound : withoutAggregation (f.column field) with
    | none =>
      have hmissed := List.findSome?_eq_none_iff.1 hfound f f.mem_all
      rw [hown, hchars] at hmissed
      cases hmissed
    | some found =>
      obtain ⟨g, -, hg⟩ := List.exists_of_findSome?_eq_some hfound
      split at hg
      · rename_i d ds hrest
        cases hg
        rw [afterStart_alias hrest, String.ofList_toList]
      · cases hg

end Channel

namespace Catalog

open Channel Program

variable {w w' : World} {names : List String} {column field : String} {e e' : Description}

/-! ## Descriptions, whatever fails -/

/-- a look-up through a coherent cache that is answered finds what is stored, or that nothing is -/
theorem get_found {code : String} {found : Option Definition} (hw : Coherent w)
    (h : (get code .cached).run w = (.ok found, w')) : found = w.definitions.get? (.code code) := by
  have hlookedUp := lookedUp w code
  rw [h] at hlookedUp
  cases hlookedUp with
  | hit d hheld => exact (hw code d hheld).symm
  | missing hnone => exact hnone.symm
  | found d hfound => exact hfound.symm

theorem describeKnown_found {found : Option Description} (hw : Coherent w)
    (h : (describeKnown names).run w = (.ok found, w')) : found = (firstKnown w names).map (·.description) := by
  induction names generalizing w with
  | nil =>
    cases h
    rfl
  | cons name names ih =>
    rw [describeKnown] at h
    obtain ⟨stored, w1, hget, hrest⟩ := World.run_bind_ok.1 h
    have hstored := get_found hw hget
    have hlookedUp := lookedUp w (decodeFieldName name).code
    have hcoherent := hlookedUp.coherent hw
    have hsame := hlookedUp.definitions
    rw [hget] at hcoherent hsame
    rw [firstKnown, List.findSome?_cons, ← hstored]
    cases stored with
    | some d =>
      cases hrest
      rfl
    | none =>
      rw [ih hcoherent hrest, firstKnown, hsame]

theorem describe_eq (column : String) :
    describe column = (describeKnown (namesOf column) >>= fun found =>
      pure (found.getD (decodeFieldName ((withoutAggregation column).getD column)))) := by
  refine bind_congr fun found => ?_
  cases found <;> rfl

/-- a description that is given is that of the first stored code, else it is read off the field itself -/
theorem describe_found (hw : Coherent w) (h : (describe column).run w = (.ok e, w')) :
    e = ((firstKnown w (namesOf column)).map (·.description)).getD
      (decodeFieldName ((withoutAggregation column).getD column)) := by
  rw [describe_eq] at h
  obtain ⟨found, w1, hknown, hdone⟩ := World.run_bind_ok.1 h
  cases hdone
  rw [describeKnown_found hw hknown]

/-! ## Aliases -/

theorem firstKnown_cons_of_unknown {name : String} (h : ∀ d ∈ w.definitions, d.code ≠ (decodeFieldName name).code) :
    firstKnown w (name :: names) = firstKnown w names := by
  rw [firstKnown, List.findSome?_cons, Store.get?_code_eq_none.2 h]
  rfl

/-- a name whose code is not stored is looked up, and then the others are -/
theorem describeKnown_cons_of_unknown {name : String} (hw : Coherent w)
    (h : ∀ d ∈ w.definitions, d.code ≠ (decodeFieldName name).code) :
    (describeKnown (name :: names)).run w =
      (get (decodeFieldName name).code .cached >>= fun _ => describeKnown names).run w := by
  rw [describeKnown]
  rcases hget : (get (decodeFieldName name).code .cached).run w with ⟨e | found, w1⟩
  · rw [World.run_bind_of_error hget, World.run_bind_of_error hget]
  · have hnone := get_found hw hget
    rw [Store.get?_code_eq_none.2 h] at hnone
    rw [World.run_bind_of_ok hget, World.run_bind_of_ok hget, hnone]

/-- what the alias of a field stands for -/
theorem namesOf_alias (f : Query.Aggregation) (hfield : field ≠ "") : namesOf (f.column field) = [f.column field, field] := by
  rw [namesOf, withoutAggregation_alias f hfield]
  rfl

theorem namesOf_of_plain (h : withoutAggregation field = none) : namesOf field = [field] := by
  rw [namesOf, h]
  rfl

/-- describing an alias that is no field itself is looking it up, and then describing the field -/
theorem describe_alias (f : Query.Aggregation) (hw : Coherent w) (hfield : field ≠ "")
    (hplain : withoutAggregation field = none)
    (hunknown : ∀ d ∈ w.definitions, d.code ≠ (decodeFieldName (f.column field)).code) :
    (describe (f.column field)).run w =
      (get (decodeFieldName (f.column field)).code .cached >>= fun _ => describe field).run w := by
  rw [describe_eq, describe_eq, namesOf_alias f hfield, namesOf_of_plain hplain, withoutAggregation_alias f hfield, hplain]
  change (Program.bind _ _).run w = (Program.bind _ fun _ => Program.bind _ _).run w
  rw [← bind_assoc, Program.run_bind, describeKnown_cons_of_unknown hw hunknown, ← Program.run_bind]
  rfl

/-- **An aggregated column is described like its field.** Where a query shows fields under a function, each has for its alias
the function's name, an underscore and the field, and this alias leads back to the field, whatever the field's name is. In a
catalog with a coherent cache, take an alias that is not itself decoded as a stored code, of a field that is no alias. Where
no store fails, both are described, and alike. Whatever fails, describing the alias is looking up its code and describing the
field after that, and if both are described, then alike. -/
theorem aliases_described (f : Query.Aggregation) (field : String) (hfield : field ≠ "") :
    f.column field = f.name ++ "_" ++ field ∧
    (∀ (d : Query.Draft) (fields : List String) (columns : String), d.aggregation = some f →
      d.fieldColumns fields = .ok columns → columns = Text.joinWith "," (fields.map fun name =>
        f.name ++ "(" ++ Query.quoteIdentifier name ++ ") AS " ++ Query.quoteIdentifier (f.column name))) ∧
    withoutAggregation (f.column field) = some field ∧
    ∀ w : World, Coherent w → withoutAggregation field = none →
      (∀ d ∈ w.definitions, d.code ≠ (decodeFieldName (f.column field)).code) →
        (w.faults.StoresNeverFail →
          ∃ e, ((describe (f.column field)).run w).1 = .ok e ∧ ((describe field).run w).1 = .ok e) ∧
        (∀ e e' w' w'', (describe (f.column field)).run w = (.ok e, w') → (describe field).run w = (.ok e', w'') →
          e = e') ∧
        (describe (f.column field)).run w =
          (get (decodeFieldName (f.column field)).code .cached >>= fun _ => describe field).run w := by
  refine ⟨rfl, fun d fields columns hf h => Query.fieldColumns_aggregated hf h, withoutAggregation_alias f hfield, ?_⟩
  intro w hw hplain hunknown
  -- both are described by what is stored for the field, or by what its name says
  have hknown : firstKnown w (namesOf (f.column field)) = firstKnown w (namesOf field) := by
    rw [namesOf_alias f hfield, namesOf_of_plain hplain, firstKnown_cons_of_unknown hunknown]
  have hrest : (withoutAggregation (f.column field)).getD (f.column field) = (withoutAggregation field).getD field := by
    rw [withoutAggregation_alias f hfield, hplain]
    rfl
  refine ⟨fun hstores => ?_, fun e e' w' w'' halias hown => ?_, describe_alias f hw hfield hplain hunknown⟩
  · refine ⟨_, ?_, describe_answer hw hstores field⟩
    rw [← hknown, ← hrest]
    exact describe_answer hw hstores (f.column field)
  · rw [describe_found hw halias, describe_found hw hown, hknown, hrest]

/-- the mean of the load is described like the load, which is stored, and the last of a heat like the heat, which is not -/
theorem aliases_described_load :
    let mean := Query.Aggregation.mean.column "load.kW"
    let last := Query.Aggregation.last.column "heat.K"
    mean = "mean_load.kW" ∧ Coherent plant ∧ withoutAggregation "load.kW" = none ∧
      (∀ d ∈ plant.definitions, d.code ≠ (decodeFieldName mean).code) ∧
      withoutAggregation mean = some "load.kW" ∧
      ((describe mean).run plant).1 = .ok ⟨"load", "kW"⟩ ∧ ((describe last).run plant).1 = .ok ⟨"heat", "K"⟩ := by
  intro mean last
  have hcoherent : Coherent plant := coherent_of_absent rfl
  have hplain : withoutAggregation "load.kW" = none := by decide +kernel
  have hunknown : ∀ d ∈ plant.definitions, d.code ≠ (decodeFieldName mean).code := by decide +kernel
  obtain ⟨-, -, hback, hload⟩ := aliases_described .mean "load.kW" (by decide)
  obtain ⟨-, -, -, hheat⟩ := aliases_described .last "heat.K" (by decide)
  obtain ⟨hstored, -, -⟩ := hload plant hcoherent hplain hunknown
  obtain ⟨hnotStored, -, -⟩ := hheat plant hcoherent (by decide +kernel) (by decide +kernel)
  obtain ⟨e, hmean, hown⟩ := hstored fun _ _ => rfl
  obtain ⟨e', hlast, hown'⟩ := hnotStored fun _ _ => rfl
  have hload : ((describe "load.kW").run plant).1 = .ok ⟨"load", "kW"⟩ := by decide +kernel
  have hheat : ((describe "heat.K").run plant).1 = .ok ⟨"heat", "K"⟩ := by decide +kernel
  refine ⟨by decide, hcoherent, hplain, hunknown, hback, ?_, ?_⟩
  · rw [hmean, ← hown, hload]
  · rw [hlast, ← hown', hheat]

end Catalog

end Telemetry
