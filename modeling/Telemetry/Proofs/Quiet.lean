import Telemetry.Proofs.Surroundings
import Telemetry.Service
/-
Programs that change nothing: their calls read, or use a cache.

Everything a write does before it asks for a path is of this kind, and so is every read from beginning to end. The lemmas
follow the programs, one for each.

- `resolve_quiet`, `equipmentFor_quiet`: matching declared channels, finding equipment;
- `routeRead_quiet`: asking for a path to read from;
- `read_quiet`, `readMath_quiet`, `latest_quiet`, `fields_quiet`: the reads of the service.
-/
namespace Telemetry

open Program

namespace Call

theorem Quiet.keeps {c : Call} (h : c.Quiet) (part : Part) : c.changes ≠ some part := by
  rw [h]
  exact Option.some_ne_none part |>.symm

end Call

/-! ## Single calls -/

theorem only_repositoryAnswer {α : Type} {allowed : Call → Prop} (r : Except RepositoryError α) :
    (repositoryAnswer r).Only allowed := by
  cases r <;> trivial

theorem only_hierarchyAnswer {α : Type} {allowed : Call → Prop} (r : Except HierarchyError α) :
    (hierarchyAnswer r).Only allowed := by
  cases r <;> trivial

theorem only_historianAnswer {α : Type} {allowed : Call → Prop} (r : Except HistorianError α) :
    (historianAnswer r).Only allowed := by
  cases r <;> trivial

/-! ## The catalog -/

namespace Catalog

theorem get_quiet (code : String) (mode : Mode) : (get code mode).Only Call.Quiet := by
  cases mode with
  | bypass => exact only_step rfl only_repositoryAnswer
  | cached =>
    refine only_bind (only_step rfl fun _ => trivial) fun hit => ?_
    cases hit with
    | some d => exact only_pure _
    | none =>
      refine only_bind (only_step rfl only_repositoryAnswer) fun found => ?_
      cases found with
      | some d => exact only_bind (only_step rfl fun _ => trivial) fun _ => only_pure _
      | none => exact only_pure _

theorem require_quiet (code : String) (mode : Mode) : (require code mode).Only Call.Quiet :=
  only_bind (get_quiet code mode) fun _ => only_orFail _ _

theorem requireAll_quiet (mode : Mode) (codes : List String) : (requireAll mode codes).Only Call.Quiet := by
  induction codes with
  | nil => exact only_pure _
  | cons code codes ih => exact only_bind (require_quiet code mode) fun d => only_bind ih fun ds => only_pure _

theorem describeKnown_quiet (names : List String) : (describeKnown names).Only Call.Quiet := by
  induction names with
  | nil => exact only_pure _
  | cons name names ih =>
    refine only_bind (get_quiet _ .cached) fun found => ?_
    cases found with
    | some d => exact only_pure _
    | none => exact ih

theorem describe_quiet (column : String) : (describe column).Only Call.Quiet := by
  refine only_bind (describeKnown_quiet _) fun found => ?_
  cases found <;> exact only_pure _

end Catalog

namespace Channel

theorem lookUp_quiet (channels : List Payload.DeclaredChannel) : (lookUp channels).Only Call.Quiet := by
  induction channels with
  | nil => exact only_pure _
  | cons c cs ih =>
    refine only_bind (Catalog.get_quiet c.code .cached) fun found => ?_
    refine only_bind (only_orFail _ _) fun d => ?_
    refine only_bind (only_ofExcept _) fun r => ?_
    exact only_bind ih fun rs => only_pure _

theorem resolve_quiet (channels : List Payload.DeclaredChannel) : (resolve channels).Only Call.Quiet := by
  unfold resolve
  split
  · trivial
  · exact lookUp_quiet channels

end Channel

theorem Payload.points_quiet (p : Payload.Parsed) : p.points.Only Call.Quiet :=
  only_bind (Channel.resolve_quiet p.channels) fun _ => only_ofExcept _

/-! ## Routing -/

namespace Storage

theorem findCovering_only {allowed : Call → Prop} {code : String} (hget : allowed (.mappingGet (.equipmentCode code)))
    (hset : ∀ m, allowed (.mappingCacheSet code m)) (hit : Option Mapping) :
    Only allowed
      (match hit with
        | some m => pure (some m)
        | none => do
          match ← find (.equipmentCode code) with
          | some m => do
            cache code m
            return some m
          | none => return none : Action (Option Mapping)) := by
  cases hit with
  | some m => exact only_pure _
  | none =>
    refine only_bind (only_step hget only_repositoryAnswer) fun found => ?_
    cases found with
    | some m => exact only_bind (only_step (hset m) fun _ => trivial) fun _ => only_pure _
    | none => exact only_pure _

theorem lookUp_quiet (code : String) (purpose : Purpose) : (lookUp code purpose).Only Call.Quiet := by
  cases purpose with
  | read => exact only_bind (only_step rfl fun _ => trivial) (findCovering_only rfl fun _ => rfl)
  | write => exact only_bind (only_pure _) (findCovering_only rfl fun _ => rfl)

theorem suggest_only {allowed : Call → Prop} (hallowed : ∀ code, allowed (.hierarchyNode code)) (e : Equipment)
    (code : String) : (suggest e code).Only allowed := by
  unfold suggest
  split
  · refine only_bind (only_step (hallowed _) only_hierarchyAnswer) fun brand => ?_
    exact only_bind (only_step (hallowed _) only_hierarchyAnswer) fun technology => only_pure _
  · exact only_pure _

theorem suggest_quiet (e : Equipment) (code : String) : (suggest e code).Only Call.Quiet :=
  suggest_only (fun _ => rfl) e code

/-- asking for a path to read from changes nothing -/
theorem routeRead_quiet (contact : String) (e : Equipment) : (routeRead contact e).Only Call.Quiet := by
  unfold routeRead route
  split
  · exact only_pure _
  · rename_i code hcode
    refine only_bind (lookUp_quiet code .read) fun found => ?_
    cases found with
    | some m => exact only_pure _
    | none =>
      refine only_bind (suggest_quiet e code) fun suggested => ?_
      cases suggested <;> exact only_pure _

theorem list_quiet : list.Only Call.Quiet := only_step rfl only_repositoryAnswer

end Storage

/-! ## The service -/

namespace Service

theorem equipmentFor_quiet (wkeid : String) : (equipmentFor wkeid).Only Call.Quiet := by
  refine only_bind (only_ofExcept _) fun _ => ?_
  exact only_bind (only_step rfl only_hierarchyAnswer) fun _ => only_orFail _ _

theorem mapGroups_quiet (channels : List Channel.Resolved) (groups : List Payload.ParsedGroup) :
    (mapGroups channels groups).Only Call.Quiet := by
  induction groups with
  | nil => exact only_pure _
  | cons g gs ih =>
    refine only_bind (equipmentFor_quiet g.equipmentId) fun equipment => ?_
    refine only_bind (only_ofExcept _) fun points => ?_
    exact only_bind ih fun rest => only_pure _

theorem periodFor_quiet (service : Service) (draft : Query.Draft) (period : Option Time.Period) :
    (service.periodFor draft period).Only Call.Quiet := by
  cases period with
  | some period => exact only_pure _
  | none =>
    refine only_bind (only_ofExcept _) fun query => ?_
    refine only_bind (only_step rfl only_historianAnswer) fun stop => ?_
    cases stop with
    | none => exact only_pure _
    | some stop => exact only_bind (only_ofExcept _) fun _ => only_pure _

theorem storedFields_quiet (draft : Query.Draft) : (storedFields draft).Only Call.Quiet :=
  only_bind (only_step rfl only_historianAnswer) fun _ => only_pure _

theorem selectStored_quiet (draft : Query.Draft) (named : List String) :
    (selectStored draft named).Only Call.Quiet := by
  unfold selectStored
  split
  · exact only_pure _
  · refine only_bind (storedFields_quiet draft) fun stored => ?_
    split <;> exact only_pure _

theorem describeColumn_quiet (name : String) : (describeColumn name).Only Call.Quiet := by
  unfold describeColumn
  split
  · exact only_pure _
  · exact only_bind (Catalog.describe_quiet name) fun _ => only_pure _

theorem describeColumns_quiet (names : List String) : (describeColumns names).Only Call.Quiet := by
  induction names with
  | nil => exact only_pure _
  | cons name names ih => exact only_bind (describeColumn_quiet name) fun _ => only_bind ih fun _ => only_pure _

theorem describeSeries_quiet (series : List Historian.Series) : (describeSeries series).Only Call.Quiet := by
  induction series with
  | nil => exact only_pure _
  | cons s ss ih => exact only_bind (describeColumns_quiet s.columns) fun _ => only_bind ih fun _ => only_pure _

theorem describeFields_quiet (names : List String) : (describeFields names).Only Call.Quiet := by
  induction names with
  | nil => exact only_pure _
  | cons name names ih => exact only_bind (Catalog.describe_quiet name) fun _ => only_bind ih fun _ => only_pure _

theorem respond_quiet (wkeid : String) (path : Storage.Path) (period : Time.Period) (query : Query.Statement) :
    (respond wkeid path period query).Only Call.Quiet := by
  refine only_bind (only_step rfl only_historianAnswer) fun series => ?_
  exact only_bind (describeSeries_quiet series) fun _ => only_pure _

theorem read_quiet (service : Service) (request : ReadRequest) : (service.read request).Only Call.Quiet := by
  refine only_bind (equipmentFor_quiet _) fun equipment => ?_
  refine only_bind (Storage.routeRead_quiet _ equipment) fun path => ?_
  cases path with
  | none => exact only_pure _
  | some path =>
    refine only_bind (Catalog.requireAll_quiet .cached _) fun definitions => ?_
    refine only_bind (only_ofExcept _) fun named => ?_
    refine only_bind (service.periodFor_quiet _ _) fun period => ?_
    cases period with
    | none => exact only_pure _
    | some period =>
      refine only_bind (selectStored_quiet _ _) fun draft => ?_
      cases draft with
      | none => exact only_pure _
      | some draft => exact only_bind (only_ofExcept _) fun query => respond_quiet _ _ _ query

theorem readMath_quiet (service : Service) (request : MathRequest) : (service.readMath request).Only Call.Quiet := by
  refine only_bind (equipmentFor_quiet _) fun equipment => ?_
  refine only_bind (Storage.routeRead_quiet _ equipment) fun path => ?_
  cases path with
  | none => exact only_pure _
  | some path =>
    refine only_bind (Catalog.require_quiet _ .cached) fun leftDefinition => ?_
    refine only_bind (Catalog.require_quiet _ .cached) fun rightDefinition => ?_
    refine only_bind (only_ofExcept _) fun left => ?_
    refine only_bind (only_ofExcept _) fun right => ?_
    refine only_bind (service.periodFor_quiet _ _) fun period => ?_
    cases period with
    | none => exact only_pure _
    | some period =>
      refine only_bind (storedFields_quiet _) fun stored => ?_
      split
      · exact only_bind (only_ofExcept _) fun query => respond_quiet _ _ _ query
      · exact only_pure _

theorem latest_quiet (service : Service) (wkeid : String) : (service.latest wkeid).Only Call.Quiet := by
  refine only_bind (equipmentFor_quiet _) fun equipment => ?_
  refine only_bind (Storage.routeRead_quiet _ equipment) fun path => ?_
  cases path with
  | none => exact only_pure _
  | some path => exact only_bind (only_ofExcept _) fun query => only_step rfl only_historianAnswer

theorem fields_quiet (service : Service) (wkeid : String) : (service.fields wkeid).Only Call.Quiet := by
  refine only_bind (equipmentFor_quiet _) fun equipment => ?_
  refine only_bind (Storage.routeRead_quiet _ equipment) fun path => ?_
  cases path with
  | none => exact only_pure _
  | some path => exact only_bind (storedFields_quiet _) fun names => describeFields_quiet _

end Service

end Telemetry
