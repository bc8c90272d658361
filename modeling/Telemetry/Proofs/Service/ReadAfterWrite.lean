import Telemetry.Proofs.Catalog.FieldNames
import Telemetry.Proofs.Service.DryRun
import Telemetry.Proofs.Service.ReadPipeline
import Telemetry.Proofs.Storage.ReadAfterWrite
/-
What is written is what is read back.

A write matches its channels with the catalog, names fields by them, and settles a path past the cache. A read of the same
channels finds their definitions through the cache, names the fields once more, and finds the path through the cache.

- `write_leaves`: all that a write that has stored points leaves for a read to find;
- `locate_after_write`: the read finds the path of the write, and the definitions that its channels were matched with;
- `read_after_write`: so it asks for the fields that were written, in the order of their declaration.
-/
namespace Telemetry

open Program

/-! ## Look-ups that teach nothing -/

namespace Catalog

variable {α : Type} {w w1 : World}

theorem coherent_of_nothingNew (hw : Coherent w) (h : World.catalog.NothingNew w w1) : Coherent w1 := by
  intro code d hd
  have hsame : w1.definitions = w.definitions := h.definitions
  rw [hsame]
  rcases h.known code d (Or.inl hd) with hcached | hstored
  · exact hw code d hcached
  · exact hstored

theorem LooksUp.nothingNew {p : Action α} (hp : LooksUp p) (w : World) : World.catalog.NothingNew w (p.run w).2 := by
  induction hp generalizing w with
  | inspection hp =>
    obtain ⟨hdefinitions, hcache⟩ := World.inspects_run hp w
    refine ⟨hdefinitions, fun code d hd => ?_⟩
    unfold CatalogSurroundings.Known at hd ⊢
    simp only [World.catalog, hdefinitions, hcache] at hd
    exact hd
  | lookUp code => exact (get_known (S := World.catalog) (s := w) rfl).1
  | @bind _ _ p f _ _ ihp ihf =>
    have hfirst := ihp w
    rcases hrun : p.run w with ⟨e | a, w1⟩ <;> rw [hrun] at hfirst
    · rw [World.run_bind_of_error hrun]
      exact hfirst
    · rw [World.run_bind_of_ok hrun]
      exact hfirst.trans (ihf a w1)

theorem lookUp_looksUp (channels : List Payload.DeclaredChannel) : LooksUp (Channel.lookUp channels) := by
  induction channels with
  | nil => exact .inspection (only_pure _)
  | cons c cs ih =>
    refine .bind (.lookUp c.code) fun found => .bind (.inspection (only_orFail _ _)) fun d => ?_
    exact .bind (.inspection (only_ofExcept _)) fun r => .bind ih fun rs => .inspection (only_pure _)

theorem resolve_looksUp (channels : List Payload.DeclaredChannel) : LooksUp (Channel.resolve channels) := by
  unfold Channel.resolve
  split
  · exact .inspection trivial
  · exact lookUp_looksUp channels

/-- where the cache is coherent and no store fails, definitions that are stored are found -/
theorem requireAll_stored (hw : Coherent w) (hstores : w.faults.StoresNeverFail) {codes : List String}
    {ds : List Channel.Definition} (h : List.Forall₂ (fun code d => w.definitions.get? (.code code) = some d) codes ds) :
    ∃ w1, (requireAll .cached codes).run w = (.ok ds, w1) := by
  induction codes generalizing w ds with
  | nil =>
    cases h
    exact ⟨w, rfl⟩
  | cons code codes ih =>
    cases h with
    | cons hd hrest =>
      obtain ⟨hanswer, halike⟩ := (lookedUp w code).answers hw hstores
      have hcoherent := (lookedUp w code).coherent hw
      rw [hd] at hanswer
      rcases hget : (get code .cached).run w with ⟨answer, w1⟩
      rw [hget] at hanswer halike hcoherent
      cases hanswer
      obtain ⟨w2, hothers⟩ := ih hcoherent (by rw [halike.faults]; exact hstores) (by rw [halike.definitions]; exact hrest)
      have hrequire : (require code .cached).run w = (.ok _, w1) := World.run_bind_of_ok hget
      refine ⟨w2, ?_⟩
      rw [requireAll, World.run_bind_of_ok hrequire, World.run_bind_of_ok hothers]
      rfl

end Catalog

/-! ## What a write leaves -/

theorem Call.FindsChannels.noMapping {c : Call} (h : c.FindsChannels) : Storage.NoMapping c := by
  cases c with
  | mappingUpsert | mappingProvision | mappingCacheGet | mappingCacheSet | mappingCacheDrop => exact h.elim
  | _ => trivial

theorem Channel.resolve_noMapping (channels : List Payload.DeclaredChannel) :
    (Channel.resolve channels).Only Storage.NoMapping := by
  have hlookUp : ∀ cs, (Channel.lookUp cs).Only Storage.NoMapping := by
    intro cs
    induction cs with
    | nil => exact only_pure _
    | cons c cs ih =>
      refine only_bind ?_ fun found => only_bind (only_orFail _ _) fun d => ?_
      · exact only_mono (fun _ => Call.FindsChannels.noMapping) (Catalog.get_within c.code).only
      · exact only_bind (only_ofExcept _) fun r => only_bind ih fun rs => only_pure _
  unfold Channel.resolve
  split
  · trivial
  · exact hlookUp channels

namespace Service

open Catalog (Coherent StoredAs)
open Storage (CacheAgrees LeadsTo NoMapping)

variable {service : Service} {wkeid : String} {payload : Payload.Single} {path : Storage.Path} {w w1 u : World}

theorem mapSingle_noMapping (wkeid : String) (payload : Payload.Single) : (mapSingle wkeid payload).Only NoMapping := by
  refine only_bind ?_ fun equipment => only_bind (only_mapError (only_ofExcept _)) fun parsed => ?_
  · exact only_bind (only_ofExcept _) fun _ => only_bind (only_step trivial only_hierarchyAnswer) fun _ => only_orFail _ _
  · refine only_bind (only_bind (Channel.resolve_noMapping _) fun _ => only_ofExcept _) fun points => only_pure _

theorem write_looksUp (service : Service) (wkeid : String) (payload : Payload.Single) :
    Catalog.LooksUp (service.write wkeid payload) := by
  rw [write_eq]
  refine .bind ?_ fun m => .bind (.inspection ?_) fun path => .inspection (carryOut_inspects _)
  · refine .bind (.inspection (equipmentFor_inspects wkeid)) fun equipment => ?_
    refine .bind (.inspection (only_mapError (only_ofExcept _))) fun parsed => ?_
    refine .bind ?_ fun points => .inspection (only_pure _)
    exact .bind (Catalog.resolve_looksUp _) fun _ => .inspection (only_ofExcept _)
  · exact only_mono (fun _ => Storage.RoutesWrite.inspects) (settle_calls service m)

/-- what a single write maps: the equipment under the id, and the points of its rows, whose channels are those declared -/
structure MappedTo (w : World) (wkeid : String) (payload : Payload.Single) (parsed : Payload.Parsed)
    (resolved : List Channel.Resolved) (m : Equipment × List Point) : Prop where
  valid : checkEquipmentId wkeid = .ok ()
  equipment : w.directory.lookup wkeid = some m.1
  parse : payload.parse = .ok parsed
  channels : List.Forall₂ (StoredAs w) parsed.channels resolved
  points : Point.ofRows resolved parsed.rows = .ok m.2

theorem mapSingle_mappedTo (hw : Coherent w) {m : Equipment × List Point}
    (h : (mapSingle wkeid payload).run w = (.ok m, w1)) :
    ∃ parsed resolved, MappedTo w wkeid payload parsed resolved m := by
  obtain ⟨equipment, w2, hequipment, h⟩ := World.run_bind_ok.1 h
  obtain ⟨parsed, w3, hfirst, h⟩ := World.run_bind_ok.1 h
  obtain ⟨points, w4, hmade, h⟩ := World.run_bind_ok.1 h
  cases h
  obtain ⟨hparse, rfl⟩ := perform_ofExcept_ok.1 (perform_mapError_ok.1 hfirst)
  obtain ⟨resolved, w5, hresolve, hrows⟩ := World.run_bind_ok.1 hmade
  obtain ⟨hpoints, -⟩ := perform_ofExcept_ok.1 hrows
  obtain ⟨calls, hfind⟩ := equipmentFor_run w wkeid
  obtain ⟨hrecord, rfl⟩ := Prod.mk.inj (hfind.symm.trans hequipment)
  have hstored := Catalog.resolve_stored (w := { w with calls }) hw hresolve
  exact ⟨parsed, resolved, checkEquipmentId_of_recordOf hrecord, lookup_of_recordOf hrecord, hparse,
    hstored.imp fun _ _ hr => ⟨hr.stored, hr.matched⟩, hpoints⟩

/-- all that a write that has stored points leaves for a read to find -/
structure Leaves (w : World) (wkeid : String) (payload : Payload.Single) (path : Storage.Path) (parsed : Payload.Parsed)
    (resolved : List Channel.Resolved) (m : Equipment × List Point) (w1 : World) : Prop extends
    MappedTo w wkeid payload parsed resolved m where
  leadsTo : ∃ code, m.1.equipmentCode = some code ∧ LeadsTo w1 code path
  coherent : Coherent w1
  definitions : w1.definitions = w.definitions
  directory : w1.directory = w.directory
  writes : w1.writes = w.writes ++ [⟨path, wkeid, m.2⟩]

theorem settle_leadsTo {m : Equipment × List Point} (hw : CacheAgrees w)
    (h : (service.settle m).run w = (.ok (some path), w1)) :
    ∃ code, m.1.equipmentCode = some code ∧ LeadsTo w1 code path := by
  unfold settle at h
  split_ifs at h
  · cases h
  · obtain ⟨found, w2, hroute, hpure⟩ := World.run_bind_ok.1 h
    cases hpure
    rcases hcode : m.1.equipmentCode with _ | code
    · rw [Storage.routeWrite_of_no_code hcode] at hroute
      cases hroute
    · exact ⟨code, rfl, Storage.leadsTo_of_routeWrite hw hcode hroute⟩

/-- what the writes are when only a plan has been carried out -/
theorem writes_of_carriedOut {m : Equipment × List Point} {w2 w3 : World}
    (hmap : (mapSingle wkeid payload).run w = (.ok m, w2)) (hsettle : (service.settle m).run w2 = (.ok (some path), w3))
    (hdone : CarriedOut World.surroundings.toSurroundings ⟨wkeid, some path, m.2⟩ w3 w1) :
    w1.writes = w.writes ++ [⟨path, wkeid, m.2⟩] := by
  have hmapped := World.surroundings.writes_perform
    (only_mono (fun _ hc => Call.Quiet.keeps hc .writes) (mapSingle_quiet wkeid payload)) w
  have hsettled := World.surroundings.writes_perform
    (only_mono (fun _ hc => hc.provisions.keeps_writes) (settle_calls service m)) w2
  rw [World.perform_surroundings, hmap] at hmapped
  rw [World.perform_surroundings, hsettle] at hsettled
  have hstored : w1.writes = w3.writes ++ [⟨path, wkeid, m.2⟩] := hdone.writes
  have hbefore : w3.writes = w.writes := hsettled.trans hmapped
  rw [hstored, hbefore]

theorem write_leaves (hchannels : Coherent w) (hmappings : CacheAgrees w) {summary : WriteSummary}
    (h : (service.write wkeid payload).run w = (.ok summary, w1)) (hpath : summary.path = some path) :
    ∃ parsed resolved m, Leaves w wkeid payload path parsed resolved m w1 := by
  have hnew := (write_looksUp service wkeid payload).nothingNew w
  have hdirectory := World.run_directory (service.write wkeid payload) w
  rw [h] at hnew hdirectory
  obtain ⟨m, w2, found, w3, hmap, hsettle, rfl, hdone⟩ := write_ok h
  obtain rfl : found = some path := hpath
  obtain ⟨parsed, resolved, hmapped⟩ := mapSingle_mappedTo hchannels hmap
  have hkept := Storage.noMapping_run (mapSingle_noMapping wkeid payload) w
  rw [hmap] at hkept
  obtain ⟨code, hcode, hleads⟩ := settle_leadsTo (hmappings.congr hkept.1 hkept.2) hsettle
  -- storing the points touches no mapping
  have hstored : NoMapping (.historianWrite path wkeid m.2) := trivial
  have hcarried : (carryOut ⟨wkeid, some path, m.2⟩).Only NoMapping :=
    only_bind (only_step hstored only_historianAnswer) fun _ => only_pure _
  have hlast := Storage.noMapping_run hcarried w3
  rw [show (carryOut ⟨wkeid, some path, m.2⟩).run w3 = _ from hdone.perform] at hlast
  exact ⟨parsed, resolved, m, hmapped, ⟨code, hcode, hleads.congr hlast.1 hlast.2⟩,
    Catalog.coherent_of_nothingNew hchannels hnew, hnew.definitions, hdirectory, writes_of_carriedOut hmap hsettle hdone⟩

/-! ## Fields by their codes -/

/-- the codes of declared channels that are no time -/
def valueCodes (channels : List Payload.DeclaredChannel) : List String :=
  (channels.filter fun c => !c.isTime).map (·.code)

def valueDefinitions (resolved : List Channel.Resolved) : List Channel.Definition :=
  (resolved.filter fun r => !r.isTime).map (·.definition)

/-- the names of the fields of codes, by the definitions that are stored under them -/
def fieldsOf (w : World) (codes : List String) : List String :=
  codes.filterMap fun code => (w.definitions.get? (.code code)).map fieldOf

/-- the names of the fields that points have -/
def namesIn (points : List Point) : List String :=
  points.flatMap fun p => p.fields.keys

variable {declared : List Payload.DeclaredChannel} {resolved : List Channel.Resolved}

theorem valueCodes_stored (h : List.Forall₂ (StoredAs w) declared resolved) :
    List.Forall₂ (fun code d => w.definitions.get? (.code code) = some d) (valueCodes declared)
      (valueDefinitions resolved) := by
  unfold valueCodes valueDefinitions
  induction h with
  | nil => exact .nil
  | @cons c r _ _ hr _ ih =>
    have htime : r.isTime = c.isTime := congrArg Channel.isTimeCode (Channel.Store.code_of_get? hr.stored)
    rw [List.filter_cons, List.filter_cons, htime]
    split
    · exact .cons hr.stored ih
    · exact ih

theorem fieldsOf_stored {codes : List String} {ds : List Channel.Definition}
    (h : List.Forall₂ (fun code d => w.definitions.get? (.code code) = some d) codes ds) :
    fieldsOf w codes = ds.map fieldOf := by
  unfold fieldsOf
  induction h with
  | nil => rfl
  | cons hd _ ih =>
    rw [List.filterMap_cons, hd, ih]
    rfl

/-- a matched channel has the field of its definition -/
theorem fieldName_of_storedAs (h : List.Forall₂ (StoredAs w) declared resolved) {r : Channel.Resolved} (hr : r ∈ resolved) :
    r.definition.fieldName = .ok (fieldOf r.definition) ∧ r.fieldName = fieldOf r.definition := by
  obtain ⟨c, -, hstored⟩ := exists_of_forall₂ h hr
  obtain ⟨-, -, hname⟩ := Catalog.matchFound_ok hstored.matched
  have hfield : r.fieldName = fieldOf r.definition := Catalog.fieldName_ok hname
  rw [← hfield]
  exact ⟨hname, rfl⟩

theorem fieldNames_valueDefinitions (h : List.Forall₂ (StoredAs w) declared resolved) :
    fieldNames (valueDefinitions resolved) = .ok ((valueDefinitions resolved).map fieldOf) := by
  refine fieldNames_ok fun d hd => ?_
  obtain ⟨r, hr, rfl⟩ := List.mem_map.1 hd
  exact (fieldName_of_storedAs h (List.mem_filter.1 hr).1).1

/-- the fields of points are those of declared channels -/
theorem MappedTo.namesIn_subset {parsed : Payload.Parsed} {m : Equipment × List Point}
    (h : MappedTo w wkeid payload parsed resolved m) : namesIn m.2 ⊆ fieldsOf w (valueCodes parsed.channels) := by
  intro name hname
  obtain ⟨point, hpoint, hkey⟩ := List.mem_flatMap.1 hname
  obtain ⟨r, hr, htime, rfl⟩ := Point.ofRows_names h.points hpoint hkey
  rw [fieldsOf_stored (valueCodes_stored h.channels), (fieldName_of_storedAs h.channels hr).2]
  refine List.mem_map_of_mem (List.mem_map_of_mem (List.mem_filter.2 ⟨hr, ?_⟩))
  rw [htime]
  rfl

/-! ## The read -/

/-- a world right after another one: a read finds equipment, mappings and channels as they were left, and no collaborator
fails it before its last query; the historian may answer anything -/
structure RightAfter (w u : World) : Prop where
  definitions : u.definitions = w.definitions
  channelCache : u.channelCache = w.channelCache
  mappings : u.mappings = w.mappings
  mappingCache : u.mappingCache = w.mappingCache
  directory : u.directory = w.directory
  stores : u.faults.StoresNeverFail
  equipment : ∀ calls wkeid, u.faults.hierarchy calls (.equipmentRecord wkeid) = none
  fields : ∀ calls query, u.faults.historian calls (.historianRows query) = none

/-- the names of the fields that the historian has on a path -/
def fieldsHeld (u : World) (path : Storage.Path) (wkeid : String) : List String :=
  (u.historian.rows (draftFor path wkeid).fieldKeys).filterMap fieldKeyOf

/-- the read finds the path of the write, and the definitions that its channels were matched with -/
theorem locate_after_write (service : Service) {parsed : Payload.Parsed} {m : Equipment × List Point}
    (h : Leaves w wkeid payload path parsed resolved m w1) (hu : RightAfter w1 u) (request : ReadRequest)
    (hwkeid : request.wkeid = wkeid) (hcodes : request.channels = valueCodes parsed.channels) :
    ∃ u1, (service.locate request).run u = (.ok (some (path, valueDefinitions resolved)), u1) := by
  obtain ⟨code, hcode, hleads⟩ := h.leadsTo
  -- the equipment
  obtain ⟨calls, hfind⟩ := equipmentFor_run u wkeid
  have hrecord : recordOf u wkeid = .ok m.1 := by
    unfold recordOf
    rw [h.valid, hu.equipment, hu.directory, h.directory, h.equipment]
  rw [hrecord] at hfind
  -- its path
  obtain ⟨u1, hroute⟩ := Storage.routeRead_of_leadsTo (w := { u with calls }) service.supportContact
    (hleads.congr hu.mappings hu.mappingCache) hcode hu.stores
  -- the channels, which finding a path has left alone
  have hnew := CatalogSurroundings.nothingNew_perform (S := World.catalog)
    (only_mono (fun _ => Call.Locates.noChannel) (Storage.routeRead_within service.supportContact m.1).only)
    { u with calls }
  have hfaults := (World.run_fixed (Storage.routeRead service.supportContact m.1) { u with calls }).2
  have hcoherent : Coherent { u with calls } := by
    intro key d hd
    have hheld : u.channelCache.Holds key d := hd
    rw [hu.channelCache] at hheld
    exact (congrArg (Channel.Store.get? · _) hu.definitions).trans (h.coherent key d hheld)
  rw [show (Storage.routeRead service.supportContact m.1).perform World.catalog.answer { u with calls } = _ from hroute] at hnew
  rw [hroute] at hfaults
  have hdefinitions : u1.definitions = w.definitions :=
    (hnew.definitions.trans hu.definitions).trans h.definitions
  have hstores : u1.faults.StoresNeverFail := by
    rw [show u1.faults = u.faults from hfaults]
    exact hu.stores
  have hstored := valueCodes_stored h.channels
  rw [← hdefinitions] at hstored
  obtain ⟨u2, hall⟩ := Catalog.requireAll_stored (Catalog.coherent_of_nothingNew hcoherent hnew) hstores hstored
  rw [← hwkeid] at hfind
  rw [← hcodes] at hall
  exact ⟨u2, (locate_ok (S := World.catalog.toSurroundings)).2 ⟨m.1, _, u1, hfind, hroute, hall⟩⟩

section Answer

variable {S : Surroundings} {request : ReadRequest} {period : Time.Period} {s s1 : S.State}

/-- whatever a read answers about a path that it has located, it says so -/
theorem path_of_answerLocated {definitions : List Channel.Definition} {r : ReadResponse}
    (h : (service.answerLocated request (some (path, definitions))).perform S.answer s = (.ok r, s1)) :
    r.path = some path := by
  obtain ⟨named, s2, -, h⟩ := perform_bind_ok.1 h
  obtain ⟨found, s3, -, h⟩ := perform_bind_ok.1 h
  cases found with
  | none =>
    cases h
    rfl
  | some period =>
    obtain ⟨selected, s4, -, h⟩ := perform_bind_ok.1 h
    cases selected with
    | none =>
      cases h
      rfl
    | some draft =>
      obtain ⟨query, s5, -, h⟩ := perform_bind_ok.1 h
      obtain ⟨series, s6, -, h⟩ := perform_bind_ok.1 h
      obtain ⟨described, s7, -, h⟩ := perform_bind_ok.1 h
      cases h
      rfl

/-- without a name every field is asked for, and nothing else -/
theorem answerWithin_unnamed (request : ReadRequest) (path : Storage.Path) (period : Time.Period) (s : S.State) :
    ∃ query, AsksFor request path period .allFields query ∧
      S.inquiries (answerWithin request path [] (some period)) s = [.historianSeries query] := by
  have hfirst := selectStored_inquiries S (draftFor path request.wkeid) [] s
  rcases answerWithin_inquiries S request path [] period s with ⟨selection, s1, query, hselected, hquery, hasked⟩ | ⟨hnone, -⟩
  · cases hselected with
    | all =>
      rw [hfirst] at hasked
      exact ⟨query, asksFor_of_read (fun _ _ _ => nofun) hquery, hasked⟩
    | stored hnamed _ _ => exact absurd rfl hnamed
  · exact absurd .all (hnone .allFields s)

/-- with names the stored fields are asked for, and then those of the named ones that there are, if there are any -/
theorem answerWithin_named (request : ReadRequest) (period : Time.Period) {named : List String} {rows : List Historian.Row}
    (hnamed : named ≠ [])
    (hanswer : S.answer s (.historianRows (draftFor path request.wkeid).fieldKeys) = (.ok rows, s1)) :
    (named.filter (rows.filterMap fieldKeyOf).contains = [] →
      S.inquiries (answerWithin request path named (some period)) s =
        [.historianRows (draftFor path request.wkeid).fieldKeys] ∧
      ((answerWithin request path named (some period)).perform S.answer s).1 =
        .ok { wkeid := request.wkeid, path := some path, period := some period }) ∧
    ∀ selection, Query.Selection.of (named.filter (rows.filterMap fieldKeyOf).contains) = some selection →
      ∃ query, AsksFor request path period selection query ∧
        S.inquiries (answerWithin request path named (some period)) s =
          [.historianRows (draftFor path request.wkeid).fieldKeys, .historianSeries query] := by
  have hfirst := selectStored_inquiries S (draftFor path request.wkeid) named s
  rw [if_neg hnamed] at hfirst
  have hselected {selection : Query.Selection} {s' : S.State}
      (h : Selected S (draftFor path request.wkeid) s named selection s') :
      Query.Selection.of (named.filter (rows.filterMap fieldKeyOf).contains) = some selection := by
    cases h with
    | all => exact absurd rfl hnamed
    | stored _ hanswer' hselection =>
      cases hanswer.symm.trans hanswer'
      exact hselection
  refine ⟨fun hnone => ⟨?_, ?_⟩, fun selection hselection => ?_⟩
  · rcases answerWithin_inquiries S request path named period s with ⟨_, _, _, h, -, -⟩ | ⟨-, hasked⟩
    · have hsome := hselected h
      rw [hnone] at hsome
      cases hsome
    · rw [hasked, hfirst]
  · have hselect : (selectStored (draftFor path request.wkeid) named).perform S.answer s = (.ok none, s1) := by
      rw [selectStored_of_named hnamed, perform_bind_of_ok (storedFields_ok.2 ⟨rows, hanswer, rfl⟩), selecting, hnone]
      rfl
    rw [answerWithin, perform_bind_of_ok hselect]
    rfl
  · rcases answerWithin_inquiries S request path named period s with ⟨chosen, _, query, h, hquery, hasked⟩ | ⟨hnone, -⟩
    · cases hselection.symm.trans (hselected h)
      rw [hfirst] at hasked
      exact ⟨query, h.asksFor hquery, hasked⟩
    · exact absurd (.stored hnamed hanswer hselection) (hnone selection s1)

end Answer

theorem rows_answered {query : Query.Statement} (h : u.faults.historian u.calls (.historianRows query) = none) :
    u.answer (.historianRows query) =
      (.ok (u.historian.rows query), { u with calls := u.calls ++ [.historianRows query] }) := by
  rw [World.answer, World.onHistorian, h]

/-- where locating has led, the historian still answers the same about fields -/
theorem rows_answered_after_locate (query : Query.Statement) {request : ReadRequest}
    {found : Option (Storage.Path × List Channel.Definition)} {u1 : World} (hu : RightAfter w1 u)
    (hlocate : (service.locate request).run u = (.ok found, u1)) :
    u1.answer (.historianRows query) =
      (.ok (u.historian.rows query), { u1 with calls := u1.calls ++ [.historianRows query] }) := by
  -- locating changes neither what fails nor what the historian has
  have hfaults := (World.run_fixed (service.locate request) u).2
  have hhistorian := World.run_historian (service.locate request) u
  rw [hlocate] at hfaults hhistorian
  have hfault : u1.faults.historian u1.calls (.historianRows query) = none := by
    rw [show u1.faults = u.faults from hfaults]
    exact hu.fields u1.calls query
  rw [rows_answered hfault, show u1.historian.rows query = u.historian.rows query from congrArg (·.rows query) hhistorian]

/-- a read that has located what it is about asks the historian in the world that locating has led to -/
theorem answers_after_locate {definitions : List Channel.Definition} {named : List String} {request : ReadRequest}
    {period : Time.Period} (hperiod : request.period = some period) (hnamed : fieldNames definitions = .ok named)
    (hlocate : (service.locate request).run u = (.ok (some (path, definitions)), w1)) :
    World.catalog.inquiries (service.read request) u =
        World.catalog.inquiries (answerWithin request path named (some period)) w1 ∧
      (service.read request).run u = (answerWithin request path named (some period)).run w1 := by
  have hrest : service.answerLocated request (some (path, definitions)) = answerWithin request path named (some period) := by
    rw [answerLocated, hnamed, hperiod]
    rfl
  rw [read_eq, ← hrest]
  exact ⟨World.catalog.inquiries_bind_of_silent (locate_silent service request) hlocate, World.run_bind_of_ok hlocate⟩

/-- **What is written is what is read back.** Take a single write that has stored points on a path, from a world whose caches
agree with what is stored, whatever fails on the way. Every declared channel that is no time then has a field. Let these
fields differ, and read these channels right after the write, with a period, where the historian holds the fields that the
points have. The read locates the path of the write. If there is such a channel, it asks for the fields held, and then for
exactly those that the points have, in the order of their declaration, of this equipment within the period, in a query that
runs on the database of the path and quotes these fields, the measurement of the path and the equipment; if the points have
none, it asks for nothing more. If there is no such channel, the read names none, and so asks for every field. -/
theorem read_after_write (service : Service) (wkeid : String) (payload : Payload.Single) (w w1 : World)
    (summary : WriteSummary) (path : Storage.Path) (hchannels : Coherent w) (hmappings : CacheAgrees w)
    (hwrite : (service.write wkeid payload).run w = (.ok summary, w1)) (hpath : summary.path = some path) :
    ∃ parsed points, payload.parse = .ok parsed ∧ w1.writes = w.writes ++ [⟨path, wkeid, points⟩] ∧
      (fieldsOf w (valueCodes parsed.channels)).length = (valueCodes parsed.channels).length ∧
      ((fieldsOf w (valueCodes parsed.channels)).Nodup →
        ∀ (u : World) (request : ReadRequest) (period : Time.Period), RightAfter w1 u →
          (∀ name, name ∈ fieldsHeld u path wkeid ↔ name ∈ namesIn points) → request.wkeid = wkeid →
          request.channels = valueCodes parsed.channels → request.period = some period →
          let asked := World.catalog.inquiries (service.read request) u
          let keys := (draftFor path wkeid).fieldKeys
          (∃ definitions u1, (service.locate request).run u = (.ok (some (path, definitions)), u1)) ∧
          (∀ r, ((service.read request).run u).1 = .ok r → r.path = some path) ∧
          (request.channels ≠ [] → ∃ names : List String,
            names.Sublist (fieldsOf w request.channels) ∧ names.Nodup ∧ (∀ name, name ∈ names ↔ name ∈ namesIn points) ∧
            (names ≠ [] → ∃ selection query, Query.Selection.of names = some selection ∧ selection.names = names ∧
              AsksFor request path period selection query ∧
              asked = [.historianRows keys, .historianSeries query]) ∧
            (names = [] → asked = [.historianRows keys] ∧
              ((service.read request).run u).1 = .ok { wkeid, path := some path, period := some period })) ∧
          (request.channels = [] → ∃ query, AsksFor request path period .allFields query ∧
            asked = [.historianSeries query])) := by
  obtain ⟨parsed, resolved, m, hleaves⟩ := write_leaves hchannels hmappings hwrite hpath
  have hfields := fieldsOf_stored (valueCodes_stored hleaves.channels)
  refine ⟨parsed, m.2, hleaves.parse, hleaves.writes, ?_, ?_⟩
  · rw [hfields, List.length_map, ← (valueCodes_stored hleaves.channels).length_eq]
  intro hnodup u request period hu hheld hwkeid hcodes hperiod asked keys
  obtain ⟨u1, hlocate⟩ := locate_after_write service hleaves hu request hwkeid hcodes
  have hnamed := fieldNames_valueDefinitions hleaves.channels
  rw [← hfields] at hnamed
  obtain ⟨hasked, hrun⟩ := answers_after_locate hperiod hnamed hlocate
  subst hwkeid
  refine ⟨⟨_, u1, hlocate⟩, fun r hr => ?_, fun hsome => ?_, fun hnone => ?_⟩
  · have hread := perform_of_fst hr
    rw [read_eq] at hread
    obtain ⟨found, u2, hfound, hanswer⟩ := perform_bind_ok.1 hread
    cases hlocate.symm.trans hfound
    exact path_of_answerLocated (S := World.catalog.toSurroundings) hanswer
  · have hanswer := rows_answered_after_locate keys hu hlocate
    have hnames : fieldsOf w (valueCodes parsed.channels) ≠ [] := by
      intro hnothing
      rw [hfields, List.map_eq_nil_iff] at hnothing
      have hstored := valueCodes_stored hleaves.channels
      rw [hnothing, List.forall₂_nil_right_iff] at hstored
      exact hsome (hcodes.trans hstored)
    obtain ⟨hnothing, hsomething⟩ :=
      answerWithin_named (S := World.catalog.toSurroundings) request period hnames hanswer
    refine ⟨(fieldsOf w (valueCodes parsed.channels)).filter (fieldsHeld u path request.wkeid).contains, ?_, hnodup.filter _,
      fun name => ?_, fun hne => ?_, fun hno => ?_⟩
    · rw [hcodes]
      exact List.filter_sublist
    · rw [List.mem_filter, List.contains_iff_mem, hheld]
      exact ⟨And.right, fun hname => ⟨hleaves.namesIn_subset hname, hname⟩⟩
    · obtain ⟨selection, hselection⟩ := Query.Selection.exists_of hne
      obtain ⟨query, hquery, hsent⟩ := hsomething selection hselection
      exact ⟨selection, query, hselection, Query.Selection.of_names hselection, hquery, hasked.trans hsent⟩
    · obtain ⟨hsent, hanswered⟩ := hnothing hno
      refine ⟨hasked.trans hsent, ?_⟩
      rw [hrun]
      exact hanswered
  · have hnothing : fieldsOf w (valueCodes parsed.channels) = [] := by
      rw [← hcodes, hnone]
      rfl
    rw [hnothing] at hasked
    obtain ⟨query, hquery, hsent⟩ := answerWithin_unnamed (S := World.catalog.toSurroundings) request path period u1
    exact ⟨query, hquery, hasked.trans hsent⟩

/-! ## A write and a read in a world -/

/-- the plant with empty caches, whose historian has loads -/
def cachingLoads : World :=
  { loadedPlant with channelCache := .present (.withHours 24), mappingCache := .present (.withHours 24) }

def pumpLoad : Payload.Single :=
  ⟨loads.channels, [.array [.string "2024-01-01T00:00:00Z", .number (.int 7)]]⟩

def pumpPoints : List Point := [⟨⟨1704067200, 0⟩, [("load.kW", .integer 7)]⟩]

/-- the world that writing the load leaves -/
def afterPumpLoad : World := (((⟨"ops", 24⟩ : Service).write "M1:S1" pumpLoad).run cachingLoads).2

/-- the load that has been written is what is asked for, through the caches that the write has filled -/
theorem read_after_write_load :
    let path : Storage.Path := ⟨"PUMP", "ACME", "E1"⟩
    let request : ReadRequest := { wkeid := "M1:S1", channels := ["load"], period := some dayBefore }
    Coherent cachingLoads ∧ CacheAgrees cachingLoads ∧
      ((⟨"ops", 24⟩ : Service).write "M1:S1" pumpLoad).run cachingLoads = (.ok ⟨"M1:S1", some path, 1⟩, afterPumpLoad) ∧
      afterPumpLoad.channelCache.size? = some 2 ∧ afterPumpLoad.mappingCache.size? = some 1 ∧
      RightAfter afterPumpLoad afterPumpLoad ∧ fieldsHeld afterPumpLoad path "M1:S1" = ["load.kW"] ∧
      ∃ query, query.database = "PUMP" ∧ (Query.scan query.text).state = .outside ∧
        (Query.scan query.text).tokens = [.identifier "load.kW", .identifier "ACME", .value "M1:S1"] ∧
        World.catalog.inquiries ((⟨"ops", 24⟩ : Service).read request) afterPumpLoad =
          [.historianRows (draftFor path "M1:S1").fieldKeys, .historianSeries query] := by
  intro path request
  have hchannels : Coherent cachingLoads := Catalog.coherent_of_empty rfl
  have hmappings : CacheAgrees cachingLoads := fun code m hm => (ReadCache.not_holds_empty _ _ code m hm).elim
  have hanswer : (((⟨"ops", 24⟩ : Service).write "M1:S1" pumpLoad).run cachingLoads).1 = .ok ⟨"M1:S1", some path, 1⟩ := by
    decide +kernel
  have hwrite : ((⟨"ops", 24⟩ : Service).write "M1:S1" pumpLoad).run cachingLoads =
      (.ok ⟨"M1:S1", some path, 1⟩, afterPumpLoad) := perform_of_fst hanswer
  have hright : RightAfter afterPumpLoad afterPumpLoad :=
    ⟨rfl, rfl, rfl, rfl, rfl, fun _ _ => rfl, fun _ _ => rfl, fun _ _ => rfl⟩
  have hheld : fieldsHeld afterPumpLoad path "M1:S1" = ["load.kW"] := by decide +kernel
  refine ⟨hchannels, hmappings, hwrite, by decide +kernel, by decide +kernel, hright, hheld, ?_⟩
  obtain ⟨parsed, points, hparse, hwrites, -, hread⟩ :=
    read_after_write ⟨"ops", 24⟩ "M1:S1" pumpLoad cachingLoads afterPumpLoad _ path hchannels hmappings hwrite rfl
  have hwritten : afterPumpLoad.writes = [⟨path, "M1:S1", pumpPoints⟩] := by decide +kernel
  have hparsed : pumpLoad.parse = .ok ⟨[⟨0, "time", "s", "time"⟩, ⟨1, "load", "kW", "power"⟩],
      .implicit [[.string "2024-01-01T00:00:00Z", .number (.int 7)]]⟩ := rfl
  rw [hwritten] at hwrites
  cases hwrites
  cases hparsed.symm.trans hparse
  obtain ⟨-, -, hnamed, -⟩ := hread (by decide +kernel) afterPumpLoad request dayBefore hright
    (fun name => by rw [hheld]; rfl) rfl rfl rfl
  obtain ⟨names, hsublist, -, hnames, hasked, -⟩ := hnamed (List.cons_ne_nil _ _)
  have hfields : fieldsOf cachingLoads request.channels = ["load.kW"] := by decide +kernel
  rw [hfields, List.sublist_singleton] at hsublist
  have hload : "load.kW" ∈ names := (hnames "load.kW").2 (by decide)
  rcases hsublist with rfl | rfl
  · cases hload
  · obtain ⟨selection, query, hselection, -, hasks, hsent⟩ := hasked (List.cons_ne_nil _ _)
    cases hselection
    obtain ⟨hstate, htokens⟩ := hasks.raw rfl rfl (fun _ h => by cases h) (by decide) (by decide)
    exact ⟨query, hasks.database, hstate, htokens, hsent⟩

/-- a time of the fan, and no other channel -/
def bareTime : Payload.Single :=
  ⟨[⟨none, "time", "s", "time"⟩], [.array [.string "2024-01-01T00:00:00Z"]]⟩

/-- the world that writing the time leaves -/
def afterBareTime : World := (((⟨"ops", 24⟩ : Service).write "M0:S0" bareTime).run enabledPlant).2

/-- a write of times alone stores points without a field, and yet reading its channels back, which are none, asks for series:
those of every field -/
theorem bare_time_reads_everything :
    let path : Storage.Path := ⟨"FAN", "ACME", "E0"⟩
    let request : ReadRequest := { wkeid := "M0:S0", channels := [], period := some dayBefore }
    Coherent enabledPlant ∧ CacheAgrees enabledPlant ∧
      ((⟨"ops", 24⟩ : Service).write "M0:S0" bareTime).run enabledPlant = (.ok ⟨"M0:S0", some path, 1⟩, afterBareTime) ∧
      (∃ parsed, bareTime.parse = .ok parsed ∧ valueCodes parsed.channels = request.channels) ∧
      (∃ points, afterBareTime.writes = [⟨path, "M0:S0", points⟩] ∧ namesIn points = []) ∧
      RightAfter afterBareTime afterBareTime ∧ fieldsHeld afterBareTime path "M0:S0" = [] ∧
      ∃ query, (finalDraft request path dayBefore .allFields).read = .ok query ∧ query.database = "FAN" ∧
        Query.scan query.text = ⟨.outside, [.identifier "ACME", .value "M0:S0"],
          (finalDraft request path dayBefore .allFields).skeleton.toList⟩ ∧
        .historianSeries query ∈ World.catalog.inquiries ((⟨"ops", 24⟩ : Service).read request) afterBareTime := by
  intro path request
  have hanswer : (((⟨"ops", 24⟩ : Service).write "M0:S0" bareTime).run enabledPlant).1 = .ok ⟨"M0:S0", some path, 1⟩ := by
    decide +kernel
  have hwritten : afterBareTime.writes = [⟨path, "M0:S0", [⟨⟨1704067200, 0⟩, []⟩]⟩] := by decide +kernel
  obtain ⟨query, hquery⟩ : ∃ query, (finalDraft request path dayBefore .allFields).read = .ok query := ⟨_, rfl⟩
  refine ⟨Catalog.coherent_of_absent rfl, fun code m hm => (ReadCache.not_holds_absent code m hm).elim, perform_of_fst hanswer,
    ⟨_, rfl, rfl⟩, ⟨_, hwritten, rfl⟩, ⟨rfl, rfl, rfl, rfl, rfl, fun _ _ => rfl, fun _ _ => rfl, fun _ _ => rfl⟩, rfl, query,
    hquery, ?_⟩
  cases hquery
  refine ⟨rfl, by decide +kernel, by decide +kernel⟩

end Service

end Telemetry
