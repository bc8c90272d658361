import Telemetry.Proofs.Catalog.Changes
/-
The operations of the catalog, one after another.

An operation is data, so that a run is a list of operations. Each of them either changes definitions, and then comes to an
`Outcome`, or is quiet.

- `Operation.outcome`, `Operation.quiet`: every operation is of one of these kinds.
-/
namespace Telemetry.Catalog

open Channel Program

/-- an operation on the catalog -/
inductive Operation where
  | create (d : Definition)
  | update (d : Definition)
  | delete (code : String)
  | reassign (equipmentCode : String) (desired : List String)
  | get (code : String) (mode : Mode)
  | require (code : String) (mode : Mode)
  | requireAll (mode : Mode) (codes : List String)
  | fieldName (code : String)
  | describe (column : String)
  | list
  | forEquipment (equipmentCode : String)
  | checkEquipmentCodes (codes : List String)

namespace Operation

abbrev Answer : Operation → Type
  | .create _ | .update _ | .require .. => Definition
  | .delete _ | .checkEquipmentCodes _ => Unit
  | .reassign .. => Reassignment
  | .get .. => Option Definition
  | .requireAll .. | .list | .forEquipment _ => List Definition
  | .fieldName _ => String
  | .describe _ => Description

def action : (op : Operation) → Action op.Answer
  | .create d => Catalog.create d
  | .update d => Catalog.update d
  | .delete code => Catalog.delete code
  | .reassign equipmentCode desired => Catalog.reassign equipmentCode desired
  | .get code mode => Catalog.get code mode
  | .require code mode => Catalog.require code mode
  | .requireAll mode codes => Catalog.requireAll mode codes
  | .fieldName code => Catalog.fieldName code
  | .describe column => Catalog.describe column
  | .list => Catalog.list
  | .forEquipment equipmentCode => Catalog.forEquipment equipmentCode
  | .checkEquipmentCodes codes => Catalog.checkEquipmentCodes codes

/-- the operation as a step of a run, whatever it answers -/
def step (op : Operation) : Action Unit := do
  let _ ← op.action

/-- an operation that is there to change definitions -/
def Mutates : Operation → Prop
  | .create _ | .update _ | .delete _ | .reassign .. => True
  | _ => False

theorem outcome {op : Operation} (hop : op.Mutates) {w : World} (hs : w.definitions.Distinct)
    (hfresh : ∀ m ∈ op.action.moments World.answer w, World.DrawsNewId m) : Outcome w (op.action.run w) := by
  cases op with
  | create d => exact create_outcome d hfresh
  | update d => exact update_outcome d
  | delete code => exact delete_outcome code
  | reassign equipmentCode desired => exact reassign_outcome equipmentCode desired hs
  | _ => exact hop.elim

theorem quiet {op : Operation} (hop : ¬ op.Mutates) : op.action.Only Call.Quiet := by
  cases op with
  | create | update | delete | reassign => exact absurd trivial hop
  | get code mode => exact get_quiet code mode
  | require code mode => exact require_quiet code mode
  | requireAll mode codes => exact requireAll_quiet mode codes
  | fieldName code => exact only_bind (require_quiet code .cached) fun _ => only_ofExcept _
  | describe column => exact describe_quiet column
  | list => exact only_step rfl only_repositoryAnswer
  | forEquipment equipmentCode => exact only_step rfl only_repositoryAnswer
  | checkEquipmentCodes codes => exact checkEquipmentCodes_only (fun _ => rfl) codes

theorem definitions_of_quiet {op : Operation} (hop : ¬ op.Mutates) {w : World} :
    (op.action.run w).2.definitions = w.definitions := by
  refine perform_invariant (I := fun v : World => v.definitions = w.definitions) ?_ (quiet hop) rfl
  intro v c hc hv
  exact (World.definitions_answer v c (hc.keeps .definitions)).trans hv

end Operation

/-! ## Runs -/

/-- the world after operations one after another, whether they succeed or fail -/
def runAll (ops : List Operation) (w : World) : World :=
  performAll World.answer (ops.map Operation.step) w

/-- every id drawn in a run is that of no definition stored then -/
def DrawsNewIds (ops : List Operation) (w : World) : Prop :=
  ∀ m ∈ momentsAll World.answer (ops.map Operation.step) w, World.DrawsNewId m

instance (ops : List Operation) (w : World) : Decidable (DrawsNewIds ops w) := by
  unfold DrawsNewIds
  infer_instance

theorem runAll_cons (op : Operation) (ops : List Operation) (w : World) :
    runAll (op :: ops) w = runAll ops (op.action.run w).2 := by
  have hstep : (op.step.run w).2 = (op.action.run w).2 := by
    rw [Operation.step, World.run_bind_pure]
  rw [← hstep]
  rfl

theorem DrawsNewIds.cons {op : Operation} {ops : List Operation} {w : World} (h : DrawsNewIds (op :: ops) w) :
    (∀ m ∈ op.action.moments World.answer w, World.DrawsNewId m) ∧ DrawsNewIds ops (op.action.run w).2 := by
  have hstep : (op.step.run w).2 = (op.action.run w).2 := by
    rw [Operation.step, World.run_bind_pure]
  refine ⟨fun m hm => h m (List.mem_append_left _ (mem_moments_bind_left hm)), fun m hm => h m ?_⟩
  rw [← hstep] at hm
  exact List.mem_append_right _ hm

theorem DrawsNewIds.append {ops ops' : List Operation} {w : World} (h : DrawsNewIds (ops ++ ops') w) :
    DrawsNewIds ops w ∧ DrawsNewIds ops' (runAll ops w) := by
  unfold DrawsNewIds at h
  rw [List.map_append, momentsAll_append] at h
  exact List.forall_mem_append.1 h

theorem runAll_fixed (ops : List Operation) (w : World) :
    (runAll ops w).nodes = w.nodes ∧ (runAll ops w).faults = w.faults :=
  World.performAll_fixed _ w

/-! ## A small run -/

/-- the load of a pump, before it is stored -/
def pumpLoad : Definition := { code := "load", dimension := "power", unit := "kW", equipmentCodes := ["B1"] }

/-- the load is defined and read, refused a second time, given to a technology, read, given another unit, read again, and
then taken for an unknown technology -/
def loadRun : List Operation :=
  [.create pumpLoad, .get "load" .cached, .create pumpLoad, .reassign "T1" ["load"], .fieldName "load",
    .update { pumpLoad with unit := "W" }, .describe "mean_load.kW", .reassign "T9" ["load"]]

def emptyPlant : World := { plant with definitions := [], channelCache := .present (.withHours 24) }

end Telemetry.Catalog
