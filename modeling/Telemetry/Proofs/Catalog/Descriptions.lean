import Telemetry.Proofs.Catalog.Integrity
import Telemetry.Proofs.Catalog.Transparency
import Telemetry.Proofs.Channel.Decoding
/-
What the catalog says of the fields of its own channels.

Where no store fails and the cache is coherent, a description is read off the stored definitions: the first of the names that
has a stored code decides (`describe_answer`). The name of a stored channel's field leads back to the channel, unless the name
has a point beside the one between code and unit. If the code has none, it is the unit that has it; then a part of the unit is
taken for the end of the code, in the name itself as in what is left of an alias, and the channel is not found.

- `field_names_decoded`: which stored channels are read back from their field names;
- `newton_metres_not_decoded`: one that is not.
-/
namespace Telemetry.Catalog

open Channel Program Text

variable {w : World} {names : List String} {name column : String}

/-! ## Descriptions -/

/-- the first definition that is stored under the code of one of some field names -/
def firstKnown (w : World) (names : List String) : Option Definition :=
  names.findSome? fun name => w.definitions.get? (.code (decodeFieldName name).code)

/-- the column, and the field inside it if it is an alias -/
def namesOf (column : String) : List String :=
  column :: (withoutAggregation column).toList

theorem describeKnown_answer (hw : Coherent w) (hstores : w.faults.StoresNeverFail) (names : List String) :
    ((describeKnown names).run w).1 = .ok ((firstKnown w names).map (·.description)) := by
  induction names generalizing w with
  | nil => rfl
  | cons name names ih =>
    have hlookedUp := lookedUp w (decodeFieldName name).code
    obtain ⟨hanswer, halike⟩ := hlookedUp.answers hw hstores
    have hcoherent := hlookedUp.coherent hw
    rcases hget : (get (decodeFieldName name).code .cached).run w with ⟨answer, w1⟩
    rw [hget] at hanswer halike hcoherent
    cases hanswer
    rw [describeKnown, World.run_bind_of_ok hget, firstKnown, List.findSome?_cons]
    cases w.definitions.get? (.code (decodeFieldName name).code) with
    | some d => rfl
    | none =>
      have hstores1 : w1.faults.StoresNeverFail := by
        rw [halike.faults]
        exact hstores
      have hrest := ih hcoherent hstores1
      rw [firstKnown, halike.definitions] at hrest
      exact hrest

/-- a description is that of the first stored code, else it is read off the field itself -/
theorem describe_answer (hw : Coherent w) (hstores : w.faults.StoresNeverFail) (column : String) :
    ((describe column).run w).1 = .ok (((firstKnown w (namesOf column)).map (·.description)).getD
      (decodeFieldName ((withoutAggregation column).getD column))) := by
  have hknown := describeKnown_answer hw hstores (namesOf column)
  rcases hrun : (describeKnown (namesOf column)).run w with ⟨answer, w1⟩
  rw [hrun] at hknown
  cases hknown
  change ((describeKnown (namesOf column) >>= _).run w).1 = _
  rw [World.run_bind_of_ok hrun]
  cases firstKnown w (namesOf column) <;> rfl

theorem firstKnown_of_stored {d : Definition} (hs : w.definitions.Distinct) (hd : d ∈ w.definitions)
    (hcode : (decodeFieldName name).code = d.code) : firstKnown w (name :: names) = some d := by
  rw [firstKnown, List.findSome?_cons, hcode, hs.get?_code hd]

/-- a definition that is found has the code of one of the names -/
theorem code_of_firstKnown {d : Definition} (h : firstKnown w names = some d) :
    ∃ name ∈ names, d.code = (decodeFieldName name).code := by
  obtain ⟨name, hname, hfound⟩ := List.exists_of_findSome?_eq_some h
  exact ⟨name, hname, Store.code_of_get? hfound⟩

/-- all names that a column stands for have its points -/
theorem count_point_of_namesOf (h : name ∈ namesOf column) : name.toList.count '.' = column.toList.count '.' := by
  rcases List.mem_cons.1 h with rfl | hfield
  · rfl
  · exact count_point_of_withoutAggregation (Option.mem_toList.1 hfield)

/-- a column with two points is described by a code with a point -/
theorem point_mem_described (hw : Coherent w) (hstores : w.faults.StoresNeverFail) (hcolumn : 2 ≤ column.toList.count '.')
    {e : Description} (h : ((describe column).run w).1 = .ok e) : '.' ∈ e.code.toList := by
  have hnames (name : String) (hname : name ∈ namesOf column) : '.' ∈ (decodeFieldName name).code.toList := by
    refine point_mem_decoded ?_
    rw [count_point_of_namesOf hname]
    exact hcolumn
  rw [describe_answer hw hstores] at h
  cases hknown : firstKnown w (namesOf column) with
  | some d =>
    rw [hknown] at h
    cases h
    obtain ⟨name, hname, hcode⟩ := code_of_firstKnown hknown
    change '.' ∈ d.code.toList
    rw [hcode]
    exact hnames name hname
  | none =>
    rw [hknown] at h
    cases h
    refine hnames _ ?_
    rw [namesOf]
    cases withoutAggregation column with
    | none => exact List.mem_cons_self
    | some field => exact List.mem_cons_of_mem _ List.mem_cons_self

/-! ## Stored channels -/

theorem ne_empty_of_not_blank {s : String} (h : isBlankText s = false) : s ≠ "" := by
  rintro rfl
  cases h

/-- **Which channels are read back from their fields.** Take any run of operations on the catalog from definitions in order
and a cache that is coherent with them, where every id drawn is new, and whatever fails on the way. Each definition stored at
the end whose code has no point has a field name. This name is decoded as its code and unit if and only if the unit has no
point either, and where no store fails, the catalog describes the field by its code and unit in the same cases and no other. -/
theorem field_names_decoded (ops : List Operation) (w : World) (hw : Catalogued w) (hcoherent : Coherent w)
    (hfresh : DrawsNewIds ops w) :
    ∀ d ∈ (runAll ops w).definitions, '.' ∉ d.code.toList →
      ∃ name, d.fieldName = .ok name ∧
        (decodeFieldName name = d.description ↔ '.' ∉ d.unit.toList) ∧
        (w.faults.StoresNeverFail →
          (((describe name).run (runAll ops w)).1 = .ok d.description ↔ '.' ∉ d.unit.toList)) := by
  intro d hd hpoint
  have hcatalogued : Catalogued (runAll ops w) := runAll_catalogued ops hw hfresh
  have hcomplete := hcatalogued.complete d hd
  have hdecoded : decodeFieldName (encodeFieldName d.code d.unit) = d.description ↔ '.' ∉ d.unit.toList :=
    decodeFieldName_encodeFieldName_iff (ne_empty_of_not_blank hcomplete.code) (ne_empty_of_not_blank hcomplete.unit) hpoint
  refine ⟨_, hcomplete.fieldName, hdecoded, fun hstores => ?_⟩
  have hend : Coherent (runAll ops w) := runAll_coherent ops hw.distinct hcoherent hfresh
  have hstoresEnd : (runAll ops w).faults.StoresNeverFail := by
    rw [(runAll_fixed ops w).2]
    exact hstores
  constructor
  · intro h hunit
    exact hpoint (point_mem_described hend hstoresEnd (two_points_of_unit d.code hunit) h)
  · intro hunit
    have hcode : (decodeFieldName (encodeFieldName d.code d.unit)).code = d.code := by
      rw [hdecoded.2 hunit]
      rfl
    rw [describe_answer hend hstoresEnd, namesOf, firstKnown_of_stored hcatalogued.distinct hd hcode]
    rfl

/-- the load's unit has changed, and its field is described by the new one -/
theorem field_names_decoded_load :
    Catalogued emptyPlant ∧ Coherent emptyPlant ∧ DrawsNewIds loadRun emptyPlant ∧
      { pumpLoad with id := some (.ofNat 0), unit := "W" } ∈ (runAll loadRun emptyPlant).definitions ∧
      decodeFieldName "load.W" = ⟨"load", "W"⟩ ∧
      ((describe "load.W").run (runAll loadRun emptyPlant)).1 = .ok ⟨"load", "W"⟩ := by
  have hw : Catalogued emptyPlant := Catalogued.of_empty rfl
  have hcoherent : Coherent emptyPlant := coherent_of_empty rfl
  have hfresh : DrawsNewIds loadRun emptyPlant := by decide +kernel
  have hstored : { pumpLoad with id := some (.ofNat 0), unit := "W" } ∈ (runAll loadRun emptyPlant).definitions := by
    decide +kernel
  obtain ⟨name, hname, hdecoded, hdescribed⟩ := field_names_decoded loadRun emptyPlant hw hcoherent hfresh _ hstored (by decide)
  cases hname
  have hunit : '.' ∉ "W".toList := by decide
  exact ⟨hw, hcoherent, hfresh, hstored, hdecoded.2 hunit, (hdescribed fun _ _ => rfl).2 hunit⟩

/-- a torque in newton metres -/
def torqueRun : List Operation :=
  [.create { code := "torque", dimension := "torque", unit := "N.m" }]

/-- the unit of the torque is cut in two: its code is not the one it is stored under -/
theorem newton_metres_not_decoded :
    DrawsNewIds torqueRun emptyPlant ∧
      (runAll torqueRun emptyPlant).definitions =
        [{ id := some (.ofNat 0), code := "torque", dimension := "torque", unit := "N.m" }] ∧
      '.' ∉ "torque".toList ∧ isBlankText "N.m" = false ∧ Channel.fieldName "torque" "N.m" = .ok "torque.N.m" ∧
      decodeFieldName "torque.N.m" = ⟨"torque.N", "m"⟩ ∧
      ((describe "torque.N.m").run (runAll torqueRun emptyPlant)).1 = .ok ⟨"torque.N", "m"⟩ := by
  refine ⟨by decide +kernel, by decide +kernel, by decide, by decide, by decide +kernel, by decide +kernel, by decide +kernel⟩

end Telemetry.Catalog
