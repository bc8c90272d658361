import Telemetry.Proofs.Catalog.Repeated
import Telemetry.Proofs.Channel.FieldNames
import Telemetry.Proofs.Payload.Declared
import Telemetry.Proofs.Point.Fields
/-
Fields of declared channels.

Declared channels that are matched with the catalog keep their codes and indices, which all differ. Their fields are named by
code and unit, so two of them share a field exactly if the code of one runs into the suffix of the other, and one of two
values in a row is lost then. Where no two channels do so, a point keeps every cell of its row.

- `lookUp_stored`, `resolve_resolved`: what a declared channel is matched with;
- `fields_kept`: when fields have one name, and that all cells are kept where they have not;
- `stage_pressures_share_field`: a catalog in which two channels share a field.
-/
namespace Telemetry.Catalog

open Channel Payload Program

variable {w w' : World}

/-! ## Matched channels -/

/-- a channel as declared, matched with a definition of its code -/
structure ResolvedFrom (c : DeclaredChannel) (r : Resolved) : Prop where
  index : r.index = c.index
  code : r.definition.code = c.code
  fieldName : r.fieldName = encodeFieldName r.definition.code r.definition.unit

/-- a channel as declared, matched with the definition that is stored under its code -/
structure StoredAs (w : World) (c : DeclaredChannel) (r : Resolved) : Prop where
  stored : w.definitions.get? (.code c.code) = some r.definition
  matched : matchFound c (some r.definition) = .ok r

theorem matchFound_ok {c : DeclaredChannel} {found : Option Definition} {r : Resolved} (h : matchFound c found = .ok r) :
    found = some r.definition ∧ r.index = c.index ∧ r.definition.fieldName = .ok r.fieldName := by
  cases found with
  | none => cases h
  | some d =>
    obtain ⟨_, -, hrest⟩ := bind_eq_ok_iff.1 h
    obtain ⟨_, -, hof⟩ := bind_eq_ok_iff.1 hrest
    obtain ⟨name, hname, rfl⟩ := map_eq_ok_iff.1 hof
    exact ⟨rfl, rfl, hname⟩

theorem fieldName_ok {d : Definition} {name : String} (h : d.fieldName = .ok name) : name = encodeFieldName d.code d.unit := by
  unfold Definition.fieldName Channel.fieldName at h
  split at h <;> cases h
  rfl

/-- a look-up through a coherent cache finds what is stored under the code -/
theorem get_ok {code : String} {d : Definition} (hw : Coherent w) (h : (get code .cached).run w = (.ok (some d), w')) :
    w.definitions.get? (.code code) = some d := by
  have hlookedUp := lookedUp w code
  rw [h] at hlookedUp
  cases hlookedUp with
  | hit _ hheld => exact hw code d hheld
  | found _ hfound => exact hfound

/-- declared channels are matched one by one, with what is stored under their codes -/
theorem lookUp_stored {cs : List DeclaredChannel} {rs : List Resolved} (hw : Coherent w)
    (h : (Channel.lookUp cs).run w = (.ok rs, w')) : List.Forall₂ (StoredAs w) cs rs := by
  induction cs generalizing w rs with
  | nil =>
    cases h
    exact .nil
  | cons c cs ih =>
    rw [lookUp_cons] at h
    obtain ⟨found, w1, hget, hrest⟩ := World.run_bind_ok.1 h
    obtain ⟨r, w2, hmatch, hrest⟩ := World.run_bind_ok.1 hrest
    obtain ⟨rest, w3, hlookUp, hdone⟩ := World.run_bind_ok.1 hrest
    cases hdone
    obtain ⟨hmatched, rfl⟩ := perform_ofExcept_ok.1 hmatch
    obtain ⟨rfl, -⟩ := matchFound_ok hmatched
    have hw1 : Coherent w1 := by
      have hafter := (lookedUp w c.code).coherent hw
      rwa [hget] at hafter
    have hsame : w1.definitions = w.definitions := by
      have hafter := (lookedUp w c.code).definitions
      rwa [hget] at hafter
    refine .cons ⟨get_ok hw hget, hmatched⟩ ((ih hw1 hlookUp).imp fun c r hr => ⟨?_, hr.matched⟩)
    rw [← hsame]
    exact hr.stored

theorem resolve_stored {cs : List DeclaredChannel} {rs : List Resolved} (hw : Coherent w)
    (h : (Channel.resolve cs).run w = (.ok rs, w')) : List.Forall₂ (StoredAs w) cs rs := by
  unfold Channel.resolve at h
  split at h
  · cases h
  · exact lookUp_stored hw h

theorem resolve_resolved {cs : List DeclaredChannel} {rs : List Resolved} (hw : Coherent w)
    (h : (Channel.resolve cs).run w = (.ok rs, w')) : List.Forall₂ ResolvedFrom cs rs := by
  refine (resolve_stored hw h).imp fun c r hr => ?_
  obtain ⟨-, hindex, hname⟩ := matchFound_ok hr.matched
  exact ⟨hindex, Store.code_of_get? hr.stored, fieldName_ok hname⟩

/-! ## Shared fields -/

/-- **Which cells a point keeps.** Take any run of operations on the catalog from a store without repeated ids and codes and
from an empty cache, where every id drawn is new, and any declared channels that are matched with the catalog afterwards.
The fields of two of them have one name exactly if the code of one runs into the suffix of the other, and then this code
has a point in it. If no two channels do that, times apart, then all fields have different names, and every row that becomes
a point keeps each of its cells that is neither a time nor a null: under the field name of the cell's own channel, and with
no other fields. -/
theorem fields_kept (ops : List Operation) (w w' : World) (ttl : Nat) (clock : Clock) (wire : List WireChannel)
    (declared : List DeclaredChannel) (channels : List Resolved) (hcache : w.channelCache = .present { ttl, clock })
    (hs : w.definitions.Distinct) (hfresh : DrawsNewIds ops w) (hdeclared : parseChannels wire = .ok declared)
    (hresolve : (Channel.resolve declared).run (runAll ops w) = (.ok channels, w')) :
    (∀ c ∈ channels, ∀ d ∈ channels, c ≠ d →
      (c.fieldName = d.fieldName ↔ c.definition.description.RunsInto d.definition.description ∨
        d.definition.description.RunsInto c.definition.description)) ∧
    (∀ c ∈ channels, ∀ d ∈ channels, c.definition.description.RunsInto d.definition.description →
      '.' ∈ c.definition.code.toList) ∧
    ((∀ c ∈ channels, ∀ d ∈ channels, c ≠ d → c.isTime = false → d.isTime = false →
        ¬ c.definition.description.RunsInto d.definition.description) →
      ((channels.filter fun c => !c.isTime).map (·.fieldName)).Nodup ∧
      ∀ rows points, Point.ofRows channels rows = .ok points →
        List.Forall₂ Point.KeepsCells (Point.cells channels rows) points) := by
  have hcoherent : Coherent (runAll ops w) := runAll_coherent ops hs (coherent_of_empty hcache) hfresh
  have hresolved := resolve_resolved hcoherent hresolve
  have hdistinct := parseChannels_distinct hdeclared
  have hcodes : (channels.map (·.definition.code)).Nodup := by
    rw [map_eq_of_forall₂ hresolved fun _ _ hr => hr.code]
    exact hdistinct.codes
  have hindices : (channels.map (·.index)).Nodup := by
    rw [map_eq_of_forall₂ hresolved fun _ _ hr => hr.index]
    exact hdistinct.indices
  have hnamed : ∀ c ∈ channels, c.fieldName = encodeFieldName c.definition.code c.definition.unit :=
    ((List.forall₂_and_left _ _).1 (hresolved.flip.imp fun _ _ hr => ⟨hr.fieldName, hr.index⟩)).1
  have hshared : ∀ c ∈ channels, ∀ d ∈ channels, c ≠ d →
      (c.fieldName = d.fieldName ↔ c.definition.description.RunsInto d.definition.description ∨
        d.definition.description.RunsInto c.definition.description) := by
    intro c hc d hd hne
    have hcode : c.definition.code ≠ d.definition.code := fun heq => hne (List.inj_on_of_nodup_map hcodes hc hd heq)
    rw [hnamed c hc, hnamed d hd]
    exact encodeFieldName_eq_iff (d := c.definition.description) (e := d.definition.description) hcode
  refine ⟨hshared, fun c _ d _ hinto => hinto.point_mem, fun hapart => ?_⟩
  have hnames : ((channels.filter fun c => !c.isTime).map (·.fieldName)).Nodup := by
    refine List.Nodup.map_on (fun c hc d hd heq => ?_) ((List.Nodup.of_map _ hindices).filter _)
    obtain ⟨hc, hctime⟩ := List.mem_filter.1 hc
    obtain ⟨hd, hdtime⟩ := List.mem_filter.1 hd
    by_contra hne
    rw [Bool.not_eq_true'] at hctime hdtime
    rcases (hshared c hc d hd hne).1 heq with hinto | hinto
    · exact hapart c hc d hd hne hctime hdtime hinto
    · exact hapart d hd c hc (Ne.symm hne) hdtime hctime hinto
  exact ⟨hnames, fun rows points hpoints => Point.ofRows_keepsCells ⟨hindices, hnames⟩ hpoints⟩

/-! ## Two catalogs -/

def meanRun : List Operation :=
  [.create { code := "time", dimension := "time", unit := "s" }, .create { code := "load", dimension := "power", unit := "kW" },
    .create { code := "load.mean", dimension := "power", unit := "kW" }]

/-- the three channels as declared -/
def meanMeta : List WireChannel :=
  [⟨none, "time", "s", "time"⟩, ⟨none, "load", "kW", "power"⟩, ⟨none, "load.mean", "kW", "power"⟩]

/-- the three channels as matched; the store gave them their ids -/
def meanChannels : List Resolved :=
  [⟨0, { id := some (.ofNat 0), code := "time", dimension := "time", unit := "s" }, "time.s"⟩,
    ⟨1, { id := some (.ofNat 1), code := "load", dimension := "power", unit := "kW" }, "load.kW"⟩,
    ⟨2, { id := some (.ofNat 2), code := "load.mean", dimension := "power", unit := "kW" }, "load.mean.kW"⟩]

/-- a code with a point in it need not run into a suffix: the load and its mean are both kept -/
theorem fields_kept_mean :
    ((meanChannels.filter fun c => !c.isTime).map (·.fieldName)).Nodup ∧
      Point.ofRows meanChannels (.implicit [[.string "2024-01-01T00:00:00Z", .ofInt 5, .ofInt 4]]) =
        .ok [⟨⟨1704067200, 0⟩, [("load.kW", .integer 5), ("load.mean.kW", .integer 4)]⟩] ∧
      Point.KeepsCells (meanChannels.zip [.string "2024-01-01T00:00:00Z", .ofInt 5, .ofInt 4])
        ⟨⟨1704067200, 0⟩, [("load.kW", .integer 5), ("load.mean.kW", .integer 4)]⟩ := by
  have hfresh : DrawsNewIds meanRun emptyPlant := by decide +kernel
  have hresolve : ((Channel.resolve [⟨0, "time", "s", "time"⟩, ⟨1, "load", "kW", "power"⟩, ⟨2, "load.mean", "kW", "power"⟩]).run
      (runAll meanRun emptyPlant)).1 = .ok meanChannels := by decide +kernel
  have hnames : ∀ c ∈ meanChannels, ∀ d ∈ meanChannels, c ≠ d →
      encodeFieldName c.definition.code c.definition.unit ≠ encodeFieldName d.definition.code d.definition.unit := by
    decide +kernel
  have hpoints : Point.ofRows meanChannels (.implicit [[.string "2024-01-01T00:00:00Z", .ofInt 5, .ofInt 4]]) =
      .ok [⟨⟨1704067200, 0⟩, [("load.kW", .integer 5), ("load.mean.kW", .integer 4)]⟩] := by decide +kernel
  obtain ⟨-, -, hkept⟩ := fields_kept meanRun emptyPlant _ _ _ meanMeta _ meanChannels rfl Store.Distinct.nil hfresh rfl
    (perform_of_fst hresolve)
  obtain ⟨hnodup, hcells⟩ := hkept fun c hc d hd hne _ _ hinto => hnames c hc d hd hne hinto.encodeFieldName_eq
  exact ⟨hnodup, hpoints, (List.forall₂_cons.1 (hcells _ _ hpoints)).1⟩

/-- a time, a stage without a unit whose code ends in a unit, and a stage with this unit -/
def stageRun : List Operation :=
  [.create { code := "time", dimension := "time", unit := "s" },
    .create { code := "Stage.kPa", dimension := "count", unit := "unitless" },
    .create { code := "Stage", dimension := "pressure", unit := "kPa" }]

/-- the three channels as declared -/
def stageMeta : List WireChannel :=
  [⟨none, "time", "s", "time"⟩, ⟨none, "Stage.kPa", "unitless", "count"⟩, ⟨none, "Stage", "kPa", "pressure"⟩]

def stageChannels : List Resolved :=
  [⟨0, { id := some (.ofNat 0), code := "time", dimension := "time", unit := "s" }, "time.s"⟩,
    ⟨1, { id := some (.ofNat 1), code := "Stage.kPa", dimension := "count", unit := "unitless" }, "Stage.kPa"⟩,
    ⟨2, { id := some (.ofNat 2), code := "Stage", dimension := "pressure", unit := "kPa" }, "Stage.kPa"⟩]

/-- two channels of one catalog are accepted and share a field: of the two values in a row the first is lost -/
theorem stage_pressures_share_field :
    DrawsNewIds stageRun emptyPlant ∧
      ∃ declared, parseChannels stageMeta = .ok declared ∧
        ((Channel.resolve declared).run (runAll stageRun emptyPlant)).1 = .ok stageChannels ∧
        ¬ ((stageChannels.filter fun c => !c.isTime).map (·.fieldName)).Nodup ∧
        Point.ofRows stageChannels (.implicit [[.string "2024-01-01T00:00:00Z", .ofInt 3, .ofInt 250]]) =
          .ok [⟨⟨1704067200, 0⟩, [("Stage.kPa", .integer 250)]⟩] := by
  refine ⟨by decide +kernel, _, rfl, ?_, ?_, ?_⟩ <;> decide +kernel

end Telemetry.Catalog
