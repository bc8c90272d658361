import Telemetry.Proofs.Catalog.Known
import Telemetry.Proofs.Program.Bounds
import Telemetry.Proofs.Storage.CachedRoutes
import Telemetry.Proofs.Time.Trailing
/-
What the stages of a read may do.

Finding equipment and its path, and finding the definitions of channels, make calls of their own kind each and none on the
historian. Neither the query nor the configuration is to blame if a stage fails, unless a window is refused. The lemmas follow
the programs, one for each.

- `equipmentFor_within`, `routeRead_within`: finding equipment and its path;
- `requireAll_within`, `describeSeries_within`: finding definitions, for channels and for columns;
- `selectStored_within`, `respond_within`: the stages that ask the historian for more than the latest point.
-/
namespace Telemetry

open Program

/-! ## Kinds of calls and failures -/

namespace Call

def onHistorian : Call → Bool
  | .historianRows _ | .historianSeries _ | .historianLatest _ | .historianWrite .. => true
  | _ => false

/-- a call made to find equipment and its path to read from -/
def Locates : Call → Prop
  | .equipmentRecord _ | .hierarchyNode _ | .mappingGet _ | .mappingCacheGet _ | .mappingCacheSet .. => True
  | _ => False

/-- a call made to find definitions of channels -/
def FindsChannels : Call → Prop
  | .channelGet _ | .channelCacheGet _ | .channelCacheSet .. => True
  | _ => False

theorem Locates.not_onHistorian {c : Call} (h : c.Locates) : c.onHistorian = false := by
  cases c <;> first | rfl | exact h.elim

theorem Locates.noChannel {c : Call} (h : c.Locates) : CatalogSurroundings.NoChannel c := by
  cases c with
  | equipmentRecord | hierarchyNode | mappingGet | mappingCacheGet | mappingCacheSet =>
    exact ⟨by simp [Call.changes], fun _ _ hcall => by cases hcall⟩
  | _ => exact h.elim

theorem FindsChannels.not_onHistorian {c : Call} (h : c.FindsChannels) : c.onHistorian = false := by
  cases c <;> first | rfl | exact h.elim

end Call

namespace ServiceError

/-- a failure of any other kind than that of a query that cannot be said -/
def IsSupported (e : ServiceError) : Prop := ∀ reason, e ≠ .unsupportedQuery reason

/-- a failure that neither the query nor the configuration is to blame for -/
def IsPlain : ServiceError → Prop
  | .unsupportedQuery _ | .config _ | .malformedConfig => False
  | _ => True

theorem IsPlain.isSupported {e : ServiceError} (h : e.IsPlain) : e.IsSupported := by
  rintro reason rfl
  exact h

theorem IsPlain.code_ne {e : ServiceError} (h : e.IsPlain) : e.code ≠ "CONFIGURATION_ERROR" := by
  cases e with
  | unsupportedQuery | config | malformedConfig => exact h.elim
  | _ => simp [code]

theorem isPlain_ofHierarchy (failure : HierarchyError) : (ofHierarchy failure).IsPlain := by
  cases failure <;> trivial

end ServiceError

/-! ## The catalog -/

namespace Catalog

theorem get_within (code : String) : (get code .cached).Within Call.FindsChannels ServiceError.IsPlain := by
  refine within_bind (within_step trivial fun _ => within_pure _) fun hit => ?_
  cases hit with
  | some d => exact within_pure _
  | none =>
    refine within_bind (within_step trivial (within_repositoryAnswer fun _ => trivial)) fun found => ?_
    cases found with
    | some d => exact within_bind (within_step trivial fun _ => within_pure _) fun _ => within_pure _
    | none => exact within_pure _

theorem require_within (code : String) : (require code .cached).Within Call.FindsChannels ServiceError.IsPlain :=
  within_bind (get_within code) fun found => within_orFail trivial found

theorem requireAll_within (codes : List String) :
    (requireAll .cached codes).Within Call.FindsChannels ServiceError.IsPlain := by
  induction codes with
  | nil => exact within_pure _
  | cons code codes ih =>
    refine within_bind (require_within code) fun d => ?_
    exact within_bind ih fun ds => within_pure _

theorem describeKnown_within (names : List String) :
    (describeKnown names).Within Call.FindsChannels ServiceError.IsPlain := by
  induction names with
  | nil => exact within_pure _
  | cons name names ih =>
    refine within_bind (get_within _) fun found => ?_
    cases found with
    | some d => exact within_pure _
    | none => exact ih

theorem describe_within (column : String) : (describe column).Within Call.FindsChannels ServiceError.IsPlain := by
  refine within_bind (describeKnown_within _) fun found => ?_
  cases found <;> exact within_pure _

end Catalog

/-! ## Routing -/

namespace Storage

theorem suggest_within (e : Equipment) (code : String) : (suggest e code).Within Call.Locates ServiceError.IsPlain := by
  unfold suggest
  split
  · refine within_bind (within_step trivial (within_hierarchyAnswer ServiceError.isPlain_ofHierarchy)) fun brand => ?_
    refine within_bind (within_step trivial (within_hierarchyAnswer ServiceError.isPlain_ofHierarchy)) fun technology => ?_
    exact within_pure _
  · exact within_pure _

theorem routeRead_within (contact : String) (e : Equipment) :
    (routeRead contact e).Within Call.Locates ServiceError.IsPlain := by
  have hfetch : ∀ code, (fetch code).Within Call.Locates ServiceError.IsPlain := by
    intro code
    refine within_bind (within_step trivial (within_repositoryAnswer fun _ => trivial)) fun found => ?_
    cases found with
    | some m => exact within_bind (within_step trivial fun _ => within_pure _) fun _ => within_pure _
    | none => exact within_pure _
  rcases hcode : e.equipmentCode with _ | code
  · rw [routeRead_of_no_code hcode]
    exact within_pure _
  rw [routeRead_of_code hcode, lookUp_read_eq]
  refine within_bind (within_bind (within_step trivial fun _ => within_pure _) fun hit => ?_) fun found => ?_
  · cases hit with
    | some m => exact within_pure _
    | none => exact hfetch code
  · cases found with
    | some m => exact within_pure _
    | none =>
      refine within_bind (suggest_within e code) fun suggested => ?_
      cases suggested <;> exact within_pure _

end Storage

/-! ## The service -/

namespace Service

theorem equipmentFor_within (wkeid : String) : (equipmentFor wkeid).Within Call.Locates ServiceError.IsPlain := by
  refine within_bind (within_ofExcept fun failure h => ?_) fun _ => ?_
  · unfold checkEquipmentId at h
    split at h
    · cases h
    · cases h
      trivial
  · refine within_bind (within_step trivial (within_hierarchyAnswer ServiceError.isPlain_ofHierarchy)) fun found => ?_
    exact within_orFail trivial found

theorem describeColumns_within (names : List String) :
    (describeColumns names).Within Call.FindsChannels ServiceError.IsPlain := by
  induction names with
  | nil => exact within_pure _
  | cons name names ih =>
    refine within_bind ?_ fun _ => within_bind ih fun _ => within_pure _
    unfold describeColumn
    split
    · exact within_pure _
    · exact within_bind (Catalog.describe_within name) fun _ => within_pure _

theorem describeSeries_within (series : List Historian.Series) :
    (describeSeries series).Within Call.FindsChannels ServiceError.IsPlain := by
  induction series with
  | nil => exact within_pure _
  | cons s ss ih => exact within_bind (describeColumns_within s.columns) fun _ => within_bind ih fun _ => within_pure _

theorem fieldName_error {d : Channel.Definition} {e : ServiceError} (h : d.fieldName = .error e) : e.IsPlain := by
  unfold Channel.Definition.fieldName Channel.fieldName at h
  split at h
  · cases h
    trivial
  · cases h

theorem fieldNames_error {ds : List Channel.Definition} {e : ServiceError} (h : fieldNames ds = .error e) : e.IsPlain := by
  induction ds with
  | nil => cases h
  | cons d ds ih =>
    rcases bind_eq_error_iff.1 h with hname | ⟨name, -, hrest⟩
    · exact fieldName_error hname
    · rcases bind_eq_error_iff.1 hrest with hnames | ⟨names, -, hdone⟩
      · exact ih hnames
      · cases hdone

/-- a window is refused as a failure of the configuration -/
theorem trailing_error {stop : Time.Instant} {hours : Int} {e : ServiceError} (h : Time.Period.trailing stop hours = .error e) :
    e.IsSupported := by
  rcases Time.trailing_error_cases h with rfl | rfl
  · exact fun _ => nofun
  · exact fun _ => nofun

theorem named_within (definitions : List Channel.Definition) :
    (ofExcept (fieldNames definitions)).Within (fun _ => True) ServiceError.IsPlain :=
  within_ofExcept fun _ => fieldNames_error

theorem storedFields_within (draft : Query.Draft) :
    (storedFields draft).Within (fun _ => True) ServiceError.IsPlain :=
  within_bind (within_step trivial (within_historianAnswer fun _ => trivial)) fun _ => within_pure _

theorem selectStored_within (draft : Query.Draft) (named : List String) :
    (selectStored draft named).Within (fun _ => True) ServiceError.IsPlain := by
  unfold selectStored
  split
  · exact within_pure _
  · refine within_bind (storedFields_within draft) fun stored => ?_
    split <;> exact within_pure _

theorem respond_within (wkeid : String) (path : Storage.Path) (period : Time.Period) (query : Query.Statement) :
    (respond wkeid path period query).Within (fun _ => True) ServiceError.IsPlain := by
  refine within_bind (within_step trivial (within_historianAnswer fun _ => trivial)) fun series => ?_
  refine within_bind ?_ fun _ => within_pure _
  exact (describeSeries_within series).mono (fun _ _ => trivial) fun _ => id

end Service

end Telemetry
