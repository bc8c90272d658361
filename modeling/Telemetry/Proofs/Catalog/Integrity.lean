import Telemetry.Proofs.Catalog.Operations
/-
What the catalog keeps of the stored definitions.

The store keeps neither codes apart nor ids: it replaces by id. That both stay apart is due to how the operations look a
definition up before they store one.

- `Operation.definitions_step`: one operation keeps a store catalogued, and leaves it as it was if it fails;
- `catalog_run`: so every run from an empty store is catalogued at each step.
-/
namespace Telemetry.Catalog

open Channel Program

/-- every definition has an id and is complete, and no two have the same id or the same code -/
structure Catalogued (w : World) : Prop where
  ids : ∀ d ∈ w.definitions, d.id ≠ none
  ids_nodup : (w.definitions.map (·.id)).Nodup
  codes_nodup : (w.definitions.map (·.code)).Nodup
  complete : ∀ d ∈ w.definitions, Complete w d

namespace Catalogued

variable {w w' : World}

theorem distinct (h : Catalogued w) : w.definitions.Distinct := by
  refine ⟨?_, h.codes_nodup⟩
  refine (List.pairwise_map.1 h.ids_nodup).imp ?_
  intro a b hne heq
  exact absurd heq hne

theorem of_empty (h : w.definitions = []) : Catalogued w := by
  constructor <;> simp [h]

/-- fitting changes that put complete definitions keep a store catalogued -/
theorem applied (h : Catalogued w) (cs : List Change) (hnodes : w'.nodes = w.nodes) (happlied : Applied w.definitions cs w'.definitions)
    (hputs : ∀ d, .put d ∈ cs → Complete w d) : Catalogued w' := by
  have hids : ∀ d ∈ w'.definitions, d.id ≠ none := by
    intro d hd
    rcases happlied.mem hd with hold | ⟨-, hid⟩
    · exact h.ids d hold
    · exact hid
  have hdistinct := happlied.distinct h.distinct
  refine ⟨hids, ?_, hdistinct.codes, ?_⟩
  · refine List.pairwise_map.2 (hdistinct.ids.imp_of_mem ?_)
    intro a b ha _ hab heq
    exact hids a ha (hab heq)
  · intro d hd
    rw [complete_of_nodes hnodes]
    rcases happlied.mem hd with hold | ⟨hput, -⟩
    · exact h.complete d hold
    · exact hputs d hput

end Catalogued

/-- one operation keeps a store catalogued, whatever fails -/
theorem Operation.catalogued_step (op : Operation) {w : World} (hw : Catalogued w)
    (hfresh : ∀ m ∈ op.action.moments World.answer w, World.DrawsNewId m) : Catalogued (op.action.run w).2 := by
  by_cases hop : op.Mutates
  · obtain ⟨⟨cs, hchanged, hputs⟩, -⟩ := op.outcome hop hw.distinct hfresh
    exact hw.applied cs hchanged.nodes hchanged.definitions fun d hd => hputs d hd hw.complete
  · refine hw.applied [] (World.run_fixed _ w).1 ?_ (by simp)
    rw [op.definitions_of_quiet hop]
    exact .nil _

/-- one operation keeps a store catalogued, and leaves it as it was if it fails -/
theorem Operation.definitions_step (op : Operation) {w : World} (hw : Catalogued w) (hstores : w.faults.StoresNeverFail)
    (hfresh : ∀ m ∈ op.action.moments World.answer w, World.DrawsNewId m) :
    Catalogued (op.action.run w).2 ∧
      ∀ e, (op.action.run w).1 = .error e → (op.action.run w).2.definitions = w.definitions := by
  refine ⟨op.catalogued_step hw hfresh, fun e he => ?_⟩
  by_cases hop : op.Mutates
  · exact (op.outcome hop hw.distinct hfresh).undone e he hstores hw.ids
  · exact op.definitions_of_quiet hop

theorem runAll_catalogued (ops : List Operation) {w : World} (hw : Catalogued w) (hfresh : DrawsNewIds ops w) :
    Catalogued (runAll ops w) := by
  induction ops generalizing w with
  | nil => exact hw
  | cons op ops ih =>
    obtain ⟨hop, hops⟩ := hfresh.cons
    rw [runAll_cons]
    exact ih (op.catalogued_step hw hop) hops

/-- **The catalog keeps its definitions in order.** Take any run of operations from an empty store, where the hierarchy may
fail at any call, the cache may hold anything, and every id drawn is new. Before and after each operation all definitions
have ids, no two have the same id or the same code, none has a blank code, dimension or unit, and the hierarchy knows all
their equipment codes. An operation that fails, wherever it does, leaves the definitions as they were. -/
theorem catalog_run (ops : List Operation) (w : World) (hempty : w.definitions = []) (hstores : w.faults.StoresNeverFail)
    (hfresh : DrawsNewIds ops w) :
    Catalogued (runAll ops w) ∧
    ∀ before op after, ops = before ++ op :: after →
      let s := runAll before w
      Catalogued s ∧ Catalogued (op.action.run s).2 ∧
        ∀ e, (op.action.run s).1 = .error e → (op.action.run s).2.definitions = s.definitions := by
  have hw := Catalogued.of_empty hempty
  refine ⟨runAll_catalogued ops hw hfresh, ?_⟩
  rintro before op after rfl s
  obtain ⟨hbefore, hafter⟩ := hfresh.append
  have hs : Catalogued s := runAll_catalogued before hw hbefore
  refine ⟨hs, op.definitions_step hs ?_ hafter.cons.1⟩
  rw [(runAll_fixed before w).2]
  exact hstores

/-- the second definition of the load is refused and changes nothing, and the load stays the only definition -/
theorem catalog_run_load :
    DrawsNewIds loadRun emptyPlant ∧ Catalogued (runAll loadRun emptyPlant) ∧
      (runAll loadRun emptyPlant).definitions = [{ pumpLoad with id := some (.ofNat 0), unit := "W" }] ∧
      ((Operation.create pumpLoad).action.run (runAll (loadRun.take 2) emptyPlant)).1 = .error (.duplicateChannelCode "load") ∧
      ((Operation.create pumpLoad).action.run (runAll (loadRun.take 2) emptyPlant)).2.definitions =
        (runAll (loadRun.take 2) emptyPlant).definitions := by
  have hfresh : DrawsNewIds loadRun emptyPlant := by decide +kernel
  have hrefused : ((Operation.create pumpLoad).action.run (runAll (loadRun.take 2) emptyPlant)).1 =
      .error (.duplicateChannelCode "load") := by decide +kernel
  obtain ⟨hend, hsteps⟩ := catalog_run loadRun emptyPlant rfl (fun _ _ => rfl) hfresh
  obtain ⟨-, -, hundone⟩ := hsteps (loadRun.take 2) (.create pumpLoad) (loadRun.drop 3) rfl
  exact ⟨hfresh, hend, by decide +kernel, hrefused, hundone _ hrefused⟩

end Telemetry.Catalog
