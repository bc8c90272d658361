import Mathlib.Tactic.SplitIfs
import Telemetry.Proofs.Storage.Routing
/-
Plans: paths settled for groups of points, and the points stored along them.

Both are recursions over a list; `settle` and `carryOut` name what is done for one element. Settling at most provisions
mappings, and storing at most writes what is planned.
-/
namespace Telemetry.Service

open Program
open Storage (Provisions)

def settle (service : Service) (group : Equipment × List Point) : Action (Option Storage.Path) :=
  if group.2.isEmpty then return none
  else do
    let path ← Storage.routeWrite service.supportContact group.1
    return some path

/-- stores the points of a plan, if it has a path -/
def carryOut (p : Planned) : Action WriteSummary :=
  match p.path with
  | some path => store p.wkeid path p.points
  | none => return .nothing p.wkeid

theorem planGroups_cons (service : Service) (group : Equipment × List Point) (groups : List (Equipment × List Point)) :
    service.planGroups (group :: groups) = (do
      let path ← service.settle group
      let rest ← service.planGroups groups
      return ⟨group.1.wkeid, path, group.2⟩ :: rest) := by
  obtain ⟨equipment, points⟩ := group
  rw [planGroups, settle]
  split_ifs
  · rfl
  · rw [LawfulMonad.bind_assoc]

theorem storePlanned_cons (p : Planned) (ps : List Planned) :
    storePlanned (p :: ps) = (do
      let summary ← carryOut p
      let summaries ← storePlanned ps
      return summary :: summaries) := by
  rw [storePlanned, carryOut]
  cases p.path <;> rfl

theorem settle_only (service : Service) (group : Equipment × List Point) : (service.settle group).Only Provisions := by
  unfold settle
  split_ifs
  · exact only_pure _
  · exact only_bind (Storage.routeWrite_only _ _) fun path => only_pure _

/-- settling paths at most provisions mappings -/
theorem planGroups_only (service : Service) (groups : List (Equipment × List Point)) :
    (service.planGroups groups).Only Provisions := by
  induction groups with
  | nil => exact only_pure _
  | cons group groups ih =>
    rw [planGroups_cons]
    exact only_bind (service.settle_only group) fun path => only_bind ih fun rest => only_pure _

/-- a call that stores the points of one of the plans -/
def Stores (ps : List Planned) (c : Call) : Prop :=
  ∃ p ∈ ps, ∃ path, p.path = some path ∧ c = .historianWrite path p.wkeid p.points

theorem Stores.keeps_mappings {ps : List Planned} {c : Call} (h : Stores ps c) : c.changes ≠ some .mappings := by
  obtain ⟨p, -, path, -, rfl⟩ := h
  simp [Call.changes]

/-- storing plans makes no other calls -/
theorem storePlanned_only (ps : List Planned) : (storePlanned ps).Only (Stores ps) := by
  induction ps with
  | nil => exact only_pure _
  | cons p ps ih =>
    rw [storePlanned_cons]
    refine only_bind ?_ fun summary => only_bind ?_ fun summaries => only_pure _
    · unfold carryOut
      cases hp : p.path with
      | none => exact only_pure _
      | some path =>
        exact only_bind (only_step ⟨p, List.mem_cons_self, path, hp, rfl⟩ only_historianAnswer) fun _ => only_pure _
    · refine only_mono (fun c hc => ?_) ih
      obtain ⟨q, hq, hstores⟩ := hc
      exact ⟨q, List.mem_cons_of_mem p hq, hstores⟩

/-- one load of the fan and one of the pump -/
def loads : Payload.Bulk :=
  { channels := [⟨none, "time", "s", "time"⟩, ⟨none, "load", "kW", "power"⟩]
    groups := [⟨"M0:S0", [.array [.string "2024-01-01T00:00:00Z", .number (.int 5)]]⟩,
      ⟨"M1:S1", [.array [.string "2024-01-01T00:00:00Z", .number (.int 7)]]⟩] }

def mappedLoads : List (Equipment × List Point) :=
  [(fan, [⟨⟨1704067200, 0⟩, [("load.kW", .integer 5)]⟩]), (pump, [⟨⟨1704067200, 0⟩, [("load.kW", .integer 7)]⟩])]

def plannedLoads : List Planned :=
  [⟨"M0:S0", some ⟨"FAN", "ACME", "E0"⟩, [⟨⟨1704067200, 0⟩, [("load.kW", .integer 5)]⟩]⟩,
    ⟨"M1:S1", some ⟨"PUMP", "ACME", "E1"⟩, [⟨⟨1704067200, 0⟩, [("load.kW", .integer 7)]⟩]⟩]

end Telemetry.Service
