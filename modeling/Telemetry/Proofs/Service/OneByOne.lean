import Telemetry.Proofs.Catalog.Repeated
import Telemetry.Proofs.Payload.Formats
import Telemetry.Proofs.Service.BulkWrite
import Telemetry.Proofs.Storage.CachedRoutes
/-
A write for several equipments is one write after another.

A bulk write settles all groups before it stores the first point; single writes settle and store group by group. Both ask the
same questions and get the same answers: the format of a group's rows is the one of the whole payload, the equipments and the
channels are found as they were at first, and paths do not depend on what was written or cached. What is asked in between
differs, so a collaborator is taken to fail a call always or never.

- `write_eq`: a single write finds its points, settles its path and stores the points;
- `write_beside`: one of the single writes, beside the settling of its group in the bulk write;
- `writeEach_of_writeBulk`: when a bulk write succeeds, so do the single writes, to the same end.
-/
namespace Telemetry

open Program

/-! ## Worlds beside each other -/

namespace World

variable {ε α : Type} {r u v : World}

/-- the worlds differ in caches, logged calls and accepted writes at most -/
def Beside (r u : World) : Prop := Alike (fun _ => false) { r with writes := u.writes } u

theorem Beside.mappings (h : Beside r u) : u.mappings = r.mappings := by
  rw [Alike.mappings (w := { r with writes := u.writes }) h]

theorem Beside.trans (h : Beside r u) (h' : Alike (fun _ => false) u v) : Beside r v := by
  unfold Beside
  rw [h'.writes]
  exact Alike.trans h h'

theorem Beside.faults (h : Beside r u) : u.faults = r.faults := by
  rw [Alike.faults (w := { r with writes := u.writes }) h]

/-- whatever is logged and written besides -/
theorem Beside.written (h : Beside r u) (calls : List Call) (writes : List Write) : Beside r { u with calls, writes } := by
  obtain ⟨channelCache, mappingCache, calls', hu, -⟩ := h
  refine ⟨channelCache, mappingCache, calls, ?_, noneCounts _ _⟩
  rw [hu]

/-- a program that asks no cache and writes nothing ends the same in both worlds, and leaves them beside each other -/
theorem Beside.run (h : Beside r u) (hsteady : r.faults.Steady) {p : Program ε α} (hcache : p.Only Call.Uncached)
    (hwrites : p.Only fun c => c.changes ≠ some .writes) :
    (p.run u).1 = (p.run r).1 ∧ Beside (p.run r).2 (p.run u).2 ∧ (p.run u).2.writes = u.writes := by
  obtain ⟨hanswer, halike⟩ := Alike.run hcache h hsteady
  have hkept : (p.run u).2.writes = u.writes := surroundings.writes_perform hwrites u
  rw [run_withWrites hwrites] at hanswer halike
  refine ⟨hanswer.symm, ?_, hkept⟩
  unfold Beside
  rw [hkept]
  exact halike

end World

theorem Storage.RoutesWrite.inspects {c : Call} (h : RoutesWrite c) : c.Inspects := by
  cases c with
  | channelUpsert | channelDelete | channelCacheGet | channelCacheSet | channelCacheDrop | mappingCacheGet => exact h.elim
  | _ => trivial

namespace Service

open Storage (RoutesWrite)

/-! ## Single writes -/

/-- writes each group by itself, one after another -/
def writeEach (service : Service) (wire : List Payload.WireChannel) : List Payload.Group → Action (List WriteSummary)
  | [] => return []
  | g :: groups => do
    let summary ← service.write g.equipmentId ⟨wire, g.rows⟩
    let summaries ← writeEach service wire groups
    return summary :: summaries

def mapSingle (wkeid : String) (payload : Payload.Single) : Action (Equipment × List Point) := do
  let equipment ← equipmentFor wkeid
  let parsed ← .mapError .ofParser (.ofExcept payload.parse)
  let points ← parsed.points
  return (equipment, points)

theorem write_eq (service : Service) (wkeid : String) (payload : Payload.Single) :
    service.write wkeid payload = (do
      let mapped ← mapSingle wkeid payload
      let path ← service.settle mapped
      carryOut ⟨wkeid, path, mapped.2⟩) := by
  simp only [write, mapSingle, LawfulMonad.bind_assoc, LawfulMonad.pure_bind]
  refine bind_congr fun equipment => bind_congr fun parsed => bind_congr fun points => ?_
  unfold settle
  split
  · rfl
  · simp only [LawfulMonad.bind_assoc, LawfulMonad.pure_bind]
    rfl

/-! ## What a write finds -/

/-- the equipment under an id, or why none is found -/
def recordOf (w : World) (wkeid : String) : Except ServiceError Equipment :=
  match checkEquipmentId wkeid, w.faults.hierarchy w.calls (.equipmentRecord wkeid), w.directory.lookup wkeid with
  | .error e, _, _ => .error e
  | .ok _, some e, _ => .error (.ofHierarchy e)
  | .ok _, none, none => .error (.equipmentNotFound wkeid)
  | .ok _, none, some e => .ok e

theorem lookup_of_recordOf {w : World} {wkeid : String} {e : Equipment} (h : recordOf w wkeid = .ok e) :
    w.directory.lookup wkeid = some e := by
  unfold recordOf at h
  split at h <;> cases h
  assumption

/-- finding equipment does nothing but log a call -/
theorem equipmentFor_run (w : World) (wkeid : String) :
    ∃ calls, (equipmentFor wkeid).run w = (recordOf w wkeid, { w with calls }) := by
  unfold equipmentFor recordOf
  cases checkEquipmentId wkeid with
  | error e => exact ⟨w.calls, rfl⟩
  | ok _ =>
    refine ⟨w.calls ++ [.equipmentRecord wkeid], ?_⟩
    change (Equipment.find wkeid >>= Program.orFail _).run w = _
    rcases hfault : w.faults.hierarchy w.calls (.equipmentRecord wkeid) with _ | e
    · have hfind : (Equipment.find wkeid).run w =
          (.ok (w.directory.lookup wkeid), { w with calls := w.calls ++ [.equipmentRecord wkeid] }) := by
        simp only [Equipment.find, Program.run, perform, World.answer, World.onHierarchy, hfault, hierarchyAnswer]
      rw [World.run_bind_of_ok hfind]
      cases w.directory.lookup wkeid <;> rfl
    · have hfind : (Equipment.find wkeid).run w =
          (.error (.ofHierarchy e), { w with calls := w.calls ++ [.equipmentRecord wkeid] }) := by
        simp only [Equipment.find, Program.run, perform, World.answer, World.onHierarchy, hfault, hierarchyAnswer]
      rw [World.run_bind_of_error hfind]

variable {w r r' u : World} {service : Service} {wire : List Payload.WireChannel}

/-- equipment and channels are found the same in both worlds -/
structure SameFinds (w u : World) : Prop where
  directory : u.directory = w.directory
  lookUps : Catalog.SameLookUps w u

theorem SameFinds.refl (h : Catalog.Lasting w) : SameFinds w w :=
  ⟨rfl, .refl h⟩

theorem SameFinds.inspects {ε α : Type} (h : SameFinds w u) (hsteady : w.faults.Steady) {p : Program ε α}
    (hp : p.Only Call.Inspects) : SameFinds w (p.run u).2 :=
  ⟨(World.run_directory p u).trans h.directory, h.lookUps.inspects hsteady.lookUps hp⟩

theorem recordOf_congr (hsteady : w.faults.Steady) (hdirectory : u.directory = w.directory) (hfaults : u.faults = w.faults)
    (wkeid : String) : recordOf u wkeid = recordOf w wkeid := by
  unfold recordOf
  rw [hdirectory, hfaults, hsteady.same_hierarchy u.calls w.calls]

/-- what a group comes to by itself: the equipment under its id, and the points of its rows -/
structure MapsAlone (wire : List Payload.WireChannel) (w : World) (g : Payload.Group) (m : Equipment × List Point) :
    Prop where
  equipment : recordOf w g.equipmentId = .ok m.1
  points : ∃ parsed channels, Payload.Single.parse ⟨wire, g.rows⟩ = .ok parsed ∧
    ((Channel.resolve parsed.channels).run w).1 = .ok channels ∧ Point.ofRows channels parsed.rows = .ok m.2

theorem equipmentFor_inspects (wkeid : String) : (equipmentFor wkeid).Only Call.Inspects :=
  only_bind (only_ofExcept _) fun _ => only_bind (only_step trivial only_hierarchyAnswer) fun _ => only_orFail _ _

/-- a single write finds the equipment and the points of its group -/
theorem MapsAlone.run {g : Payload.Group} {m : Equipment × List Point} (hm : MapsAlone wire w g m)
    (hsteady : w.faults.Steady) (hlasting : Catalog.Lasting w) (h : SameFinds w u) :
    ∃ u', (mapSingle g.equipmentId ⟨wire, g.rows⟩).run u = (.ok m, u') ∧ SameFinds w u' ∧
      World.Alike (fun _ => false) u u' := by
  obtain ⟨parsed, channels, hparse, hresolve, hpoints⟩ := hm.points
  obtain ⟨calls, hfind⟩ := equipmentFor_run u g.equipmentId
  have h1 := h.inspects hsteady (equipmentFor_inspects g.equipmentId)
  rw [hfind] at h1
  rw [recordOf_congr hsteady h.directory h.lookUps.faults, hm.equipment] at hfind
  obtain ⟨hanswer, hlookUps, halike⟩ := h1.lookUps.resolve hsteady.lookUps hlasting parsed.channels
  rcases hrun : (Channel.resolve parsed.channels).run { u with calls } with ⟨answer, u2⟩
  rw [hrun, hresolve] at hanswer
  rw [hrun] at hlookUps halike
  cases hanswer
  have hmade : parsed.points.run { u with calls } = (.ok m.2, u2) :=
    World.run_bind_ok.2 ⟨channels, u2, hrun, perform_ofExcept_ok.2 ⟨hpoints, rfl⟩⟩
  have hparsed : (mapError .ofParser (.ofExcept (Payload.Single.parse ⟨wire, g.rows⟩)) : Action _).run { u with calls } =
      (.ok parsed, { u with calls }) :=
    perform_mapError_ok.2 (perform_ofExcept_ok.2 ⟨hparse, rfl⟩)
  refine ⟨u2, ?_, ⟨halike.directory.trans h1.directory, hlookUps⟩, ?_⟩
  · refine World.run_bind_ok.2 ⟨_, _, hfind, World.run_bind_ok.2 ⟨_, _, hparsed, ?_⟩⟩
    exact World.run_bind_ok.2 ⟨_, _, hmade, rfl⟩
  · exact World.Alike.trans ⟨u.channelCache, u.mappingCache, calls, rfl, noneCounts _ _⟩ halike

/-- the equipments that are found one after another are those found at first, and finding them at most logs calls -/
theorem mapGroups_alone {channels : List Channel.Resolved} {groups : List Payload.ParsedGroup}
    {mapped : List (Equipment × List Point)} {s s' : World} (hsteady : w.faults.Steady)
    (hs : World.Alike (fun _ => false) w s) (h : (mapGroups channels groups).run s = (.ok mapped, s')) :
    List.Forall₂ (fun g m => recordOf w g.equipmentId = .ok m.1 ∧ Point.ofRows channels g.rows = .ok m.2) groups mapped ∧
      World.Alike (fun _ => false) w s' := by
  induction groups generalizing mapped s with
  | nil =>
    cases h
    exact ⟨.nil, hs⟩
  | cons g groups ih =>
    obtain ⟨equipment, s1, hequipment, hrest⟩ := World.run_bind_ok.1 h
    obtain ⟨points, s2, hrows, hrest⟩ := World.run_bind_ok.1 hrest
    obtain ⟨rest, s3, hmapped, hdone⟩ := World.run_bind_ok.1 hrest
    cases hdone
    obtain ⟨hpoints, rfl⟩ := perform_ofExcept_ok.1 hrows
    obtain ⟨calls, hfind⟩ := equipmentFor_run s g.equipmentId
    rw [recordOf_congr hsteady hs.directory hs.faults] at hfind
    obtain ⟨hrecord, hs1⟩ := Prod.mk.inj (hfind.symm.trans hequipment)
    have hlogged : World.Alike (fun _ => false) s s1 := by
      rw [← hs1]
      exact ⟨s.channelCache, s.mappingCache, calls, rfl, noneCounts _ _⟩
    obtain ⟨hgroups, hs'⟩ := ih (hs.trans hlogged) hmapped
    exact ⟨.cons ⟨hrecord, hpoints⟩ hgroups, hs'⟩

theorem mapsAlone_of_parsed {declared : List Payload.DeclaredChannel} {channels : List Channel.Resolved}
    {format : Payload.Format} {groups : List Payload.Group} {parsed : List Payload.ParsedGroup}
    {mapped : List (Equipment × List Point)} (hwire : Payload.parseChannels wire = .ok declared)
    (hresolve : ((Channel.resolve declared).run w).1 = .ok channels)
    (hgroups : List.Forall₂ (fun g p => g.parse format = .ok p) groups parsed)
    (hmapped : List.Forall₂ (fun g m => recordOf w g.equipmentId = .ok m.1 ∧ Point.ofRows channels g.rows = .ok m.2)
      parsed mapped) : List.Forall₂ (MapsAlone wire w) groups mapped := by
  induction hgroups generalizing mapped with
  | nil =>
    cases hmapped
    exact .nil
  | cons hparse _ ih =>
    cases hmapped with
    | cons hm hrest =>
      obtain ⟨hid, hrows⟩ := Payload.Group.parse_eq_ok hparse
      obtain ⟨hrecord, hpoints⟩ := hm
      rw [hid] at hrecord
      obtain ⟨alone, hsingle, halone⟩ := Payload.parse_alone hwire hrows hpoints
      exact .cons ⟨hrecord, _, channels, hsingle, hresolve, halone⟩ (ih hrest)

/-- the groups of a bulk write that maps all of them, each by itself -/
theorem prepare_alone {payload : Payload.Bulk} {mapped : List (Equipment × List Point)} (hsteady : w.faults.Steady)
    (hlasting : Catalog.Lasting w) (h : (prepare payload).run w = (.ok mapped, r)) :
    List.Forall₂ (MapsAlone payload.channels w) payload.groups mapped ∧ World.Alike (fun _ => false) w r := by
  obtain ⟨parsed, w1, hfirst, hrest⟩ := World.run_bind_ok.1 h
  obtain ⟨channels, w2, hresolve, hmapped⟩ := World.run_bind_ok.1 hrest
  obtain ⟨hparse, rfl⟩ := perform_ofExcept_ok.1 (perform_mapError_ok.1 hfirst)
  obtain ⟨hwire, hgroups⟩ := Payload.Bulk.parse_groups hparse
  obtain ⟨-, -, hresolved⟩ := Catalog.resolve_content hsteady.lookUps hlasting parsed.channels
  rw [hresolve] at hresolved
  obtain ⟨halone, hr⟩ := mapGroups_alone hsteady hresolved hmapped
  exact ⟨mapsAlone_of_parsed hwire (by rw [hresolve]) hgroups halone, hr⟩

/-! ## One write -/

theorem settle_calls (service : Service) (group : Equipment × List Point) : (service.settle group).Only RoutesWrite := by
  unfold settle
  split
  · exact only_pure _
  · exact only_bind (Storage.routeWrite_calls _ _) fun path => only_pure _

/-- where the historian does not fail, a plan is carried out -/
theorem carryOut_run (hwriter : ∀ calls path wkeid points, u.faults.historian calls (.historianWrite path wkeid points) = none)
    (p : Planned) :
    ∃ calls, (carryOut p).run u = (.ok p.summary, { u with calls, writes := u.writes ++ p.target.toList }) := by
  obtain ⟨wkeid, path?, points⟩ := p
  cases path? with
  | none =>
    refine ⟨u.calls, ?_⟩
    change _ = (_, { u with writes := u.writes ++ [] })
    rw [List.append_nil]
    rfl
  | some path =>
    refine ⟨u.calls ++ [.historianWrite path wkeid points], ?_⟩
    have hwrite : (Historian.write path wkeid points).run u = (.ok (), { u with
        calls := u.calls ++ [.historianWrite path wkeid points], writes := u.writes ++ [⟨path, wkeid, points⟩] }) := by
      simp only [Historian.write, Program.run, perform, World.answer, World.onHistorian, hwriter, historianAnswer]
    exact World.run_bind_ok.2 ⟨_, _, hwrite, rfl⟩

/-- and so are plans one after another -/
theorem storePlanned_run (hwriter : ∀ calls path wkeid points, u.faults.historian calls (.historianWrite path wkeid points) =
    none) (ps : List Planned) :
    ∃ calls, (storePlanned ps).run u = (.ok (ps.map Planned.summary), { u with calls, writes := u.writes ++ targets ps }) := by
  induction ps generalizing u with
  | nil =>
    refine ⟨u.calls, ?_⟩
    change _ = (_, { u with writes := u.writes ++ [] })
    rw [List.append_nil]
    rfl
  | cons p ps ih =>
    obtain ⟨calls, hcarry⟩ := carryOut_run hwriter p
    obtain ⟨calls', hrest⟩ := ih (u := { u with calls, writes := u.writes ++ p.target.toList }) hwriter
    refine ⟨calls', ?_⟩
    rw [storePlanned_cons, World.run_bind_of_ok hcarry, World.run_bind_of_ok hrest, targets_cons, ← List.append_assoc]
    rfl

theorem carryOut_inspects (p : Planned) : (carryOut p).Only Call.Inspects := by
  unfold carryOut
  cases p.path with
  | none => exact only_pure _
  | some path => exact only_bind (only_step trivial only_historianAnswer) fun _ => only_pure _

/-- one of the single writes, beside the settling of its group in the bulk write -/
theorem write_beside {g : Payload.Group} {m : Equipment × List Point} {path : Option Storage.Path}
    (hm : MapsAlone wire w g m) (hwkeid : m.1.wkeid = g.equipmentId) (hsteady : w.faults.Steady) (hlasting : Catalog.Lasting w)
    (hwriter : ∀ calls path wkeid points, w.faults.historian calls (.historianWrite path wkeid points) = none)
    (h : SameFinds w u) (hbeside : r.Beside u) (hsettle : (service.settle m).run r = (.ok path, r')) :
    let p : Planned := ⟨m.1.wkeid, path, m.2⟩
    ∃ u', (service.write g.equipmentId ⟨wire, g.rows⟩).run u = (.ok p.summary, u') ∧ SameFinds w u' ∧ r'.Beside u' ∧
      u'.writes = u.writes ++ p.target.toList := by
  intro p
  obtain ⟨u1, hmap, h1, halike⟩ := hm.run hsteady hlasting h
  have hcalls := settle_calls service m
  have hsteady' : r.faults.Steady := by
    rw [← hbeside.faults, h.lookUps.faults]
    exact hsteady
  obtain ⟨hanswer, hbeside2, hwrites⟩ := (hbeside.trans halike).run hsteady' (only_mono (fun _ => RoutesWrite.uncached) hcalls)
    (only_mono (fun _ hc => hc.provisions.keeps_writes) hcalls)
  have h2 := h1.inspects hsteady (only_mono (fun _ => RoutesWrite.inspects) hcalls)
  rcases hrun : (service.settle m).run u1 with ⟨answer, u2⟩
  rw [hrun, hsettle] at hanswer hbeside2
  rw [hrun] at hwrites h2
  cases hanswer
  -- the path is settled; what is left is to store the points, if there are any
  obtain ⟨calls, hcarry⟩ := carryOut_run (u := u2) (by rw [h2.lookUps.faults]; exact hwriter) p
  have h3 := h2.inspects hsteady (carryOut_inspects p)
  rw [hcarry] at h3
  refine ⟨_, ?_, h3, hbeside2.written _ _, ?_⟩
  · rw [write_eq]
    refine World.run_bind_ok.2 ⟨_, _, hmap, World.run_bind_ok.2 ⟨_, _, hrun, ?_⟩⟩
    rw [← hwkeid]
    exact hcarry
  · rw [← halike.writes, ← hwrites]

/-- the single writes, beside the settling of all groups in the bulk write -/
theorem writeEach_beside {groups : List Payload.Group} {mapped : List (Equipment × List Point)} {planned : List Planned}
    (hmapped : List.Forall₂ (MapsAlone wire w) groups mapped)
    (hdirectory : ∀ wkeid e, w.directory.lookup wkeid = some e → e.wkeid = wkeid) (hsteady : w.faults.Steady)
    (hlasting : Catalog.Lasting w)
    (hwriter : ∀ calls path wkeid points, w.faults.historian calls (.historianWrite path wkeid points) = none)
    (h : SameFinds w u) (hbeside : r.Beside u) (hplan : (service.planGroups mapped).run r = (.ok planned, r')) :
    ∃ u', (service.writeEach wire groups).run u = (.ok (planned.map Planned.summary), u') ∧ r'.Beside u' ∧
      u'.writes = u.writes ++ targets planned := by
  induction hmapped generalizing planned r u with
  | nil =>
    cases hplan
    exact ⟨u, rfl, hbeside, (List.append_nil _).symm⟩
  | @cons g m groups mapped hm _ ih =>
    rw [planGroups_cons] at hplan
    obtain ⟨path, r1, hsettle, hrest⟩ := World.run_bind_ok.1 hplan
    obtain ⟨rest, r2, hplan, hdone⟩ := World.run_bind_ok.1 hrest
    cases hdone
    have hwkeid := hdirectory _ _ (lookup_of_recordOf hm.equipment)
    obtain ⟨u1, hwrite, h1, hbeside1, hwrites1⟩ := write_beside hm hwkeid hsteady hlasting hwriter h hbeside hsettle
    obtain ⟨u2, heach, hbeside2, hwrites2⟩ := ih h1 hbeside1 hplan
    refine ⟨u2, ?_, hbeside2, ?_⟩
    · exact World.run_bind_ok.2 ⟨_, _, hwrite, World.run_bind_ok.2 ⟨_, _, heach, rfl⟩⟩
    · rw [hwrites2, hwrites1, List.append_assoc, targets_cons]

/-! ## The whole write -/

/-- **A write for several equipments is one write after another.** Take a world where the directory's records are under their
own ids, the historian accepts every write, and every other collaborator fails a call always or never. Cached definitions may
expire whenever they like if each is the stored one and can be read; if no time passes, they may be any. When a bulk write
succeeds there, writing each group by itself succeeds for every group, under the same declared channels and in the same
order. It answers with the same summaries, and leaves the same writes and the same mappings. -/
theorem writeEach_of_writeBulk (service : Service) (payload : Payload.Bulk) (w w' : World) (summaries : List WriteSummary)
    (hdirectory : ∀ wkeid e, w.directory.lookup wkeid = some e → e.wkeid = wkeid) (hsteady : w.faults.Steady)
    (hlasting : Catalog.Lasting w)
    (hwriter : ∀ calls path wkeid points, w.faults.historian calls (.historianWrite path wkeid points) = none)
    (h : (service.writeBulk payload).run w = (.ok summaries, w')) :
    ∃ w'', (service.writeEach payload.channels payload.groups).run w = (.ok summaries, w'') ∧
      w''.writes = w'.writes ∧ w''.mappings = w'.mappings := by
  rw [writeBulk_eq] at h
  obtain ⟨mapped, r, hprepare, hrest⟩ := World.run_bind_ok.1 h
  obtain ⟨planned, r', hplan, hstore⟩ := World.run_bind_ok.1 hrest
  obtain ⟨halone, hr⟩ := prepare_alone hsteady hlasting hprepare
  have hbeside : r.Beside w := by
    unfold World.Beside
    rw [← hr.writes]
    exact hr.symm
  have hplanned := only_mono (fun _ hc => Storage.Provisions.keeps_writes hc) (service.planGroups_only mapped)
  have hfaults : r'.faults = w.faults := by
    have hkept := (World.run_fixed (service.planGroups mapped) r).2
    rw [hplan] at hkept
    exact hkept.trans hr.faults
  have hunwritten : r'.writes = w.writes := by
    have hkept := World.surroundings.writes_perform hplanned r
    rw [World.perform_surroundings, hplan] at hkept
    exact hkept.trans hr.writes
  obtain ⟨w'', heach, hbeside', hwrites⟩ := writeEach_beside halone hdirectory hsteady hlasting hwriter (.refl hlasting)
    hbeside hplan
  obtain ⟨calls, hstored⟩ := storePlanned_run (u := r') (by rw [hfaults]; exact hwriter) planned
  cases hstore.symm.trans hstored
  refine ⟨w'', heach, ?_, hbeside'.mappings⟩
  rw [hwrites, ← hunwritten]

/-- the plant with a second pump, whose code joins the mapping of the first, and with a cache for channels, on whose clock a day
passes before the sixth look -/
def joiningPlant : World :=
  { enabledPlant with
    directory := ("M2:S2", Storage.secondPump) :: enabledPlant.directory
    channelCache := .present { Cache.withHours 24 with clock := { passes := [0, 0, 0, 0, 0, 86400000000000] } } }

/-- a load of each pump, and none of the fan -/
def joiningLoads : Payload.Bulk :=
  { channels := loads.channels
    groups := [⟨"M2:S2", [.array [.string "2024-01-01T00:00:00Z", .number (.int 9)]]⟩, ⟨"M0:S0", []⟩,
      ⟨"M1:S1", [.array [.string "2024-01-01T00:00:00Z", .number (.int 7)]]⟩] }

/-- the second pump joins the mapping in the midst of the first pass over paths, and of the first single write; the load
expires in the midst of the second single write -/
theorem writeEach_of_writeBulk_joining :
    let bulk := ((⟨"ops", 24⟩ : Service).writeBulk joiningLoads).run joiningPlant
    let each := ((⟨"ops", 24⟩ : Service).writeEach joiningLoads.channels joiningLoads.groups).run joiningPlant
    each.1 = .ok [⟨"M2:S2", some ⟨"PUMP", "ACME", "E2"⟩, 1⟩, ⟨"M0:S0", none, 0⟩, ⟨"M1:S1", some ⟨"PUMP", "ACME", "E1"⟩, 1⟩] ∧
      each.2.writes = bulk.2.writes ∧ each.2.mappings = bulk.2.mappings ∧
      bulk.2.mappings.map (·.equipmentCodes) = [["E0"], ["E1", "E2"]] := by
  intro bulk each
  have hanswer : bulk.1 = .ok [⟨"M2:S2", some ⟨"PUMP", "ACME", "E2"⟩, 1⟩, ⟨"M0:S0", none, 0⟩,
      ⟨"M1:S1", some ⟨"PUMP", "ACME", "E1"⟩, 1⟩] := by decide +kernel
  have hdirectory : ∀ wkeid e, joiningPlant.directory.lookup wkeid = some e → e.wkeid = wkeid := by
    intro wkeid e h
    rcases List.mem_cons.1 (Cache.mem_of_lookup h) with hfirst | hrest
    · cases hfirst
      rfl
    · rcases List.mem_cons.1 hrest with hsecond | hlast
      · cases hsecond
        rfl
      · cases List.mem_singleton.1 hlast
        rfl
  have hsteady : joiningPlant.faults.Steady := ⟨fun _ _ => rfl, fun _ _ => rfl, fun _ _ => rfl⟩
  have hlasting : Catalog.Lasting joiningPlant :=
    Catalog.lasting_of_coherent (Catalog.coherent_of_empty rfl) fun _ _ => rfl
  obtain ⟨w'', heach, hwrites, hmappings⟩ := writeEach_of_writeBulk ⟨"ops", 24⟩ joiningLoads joiningPlant bulk.2 _ hdirectory
    hsteady hlasting (fun _ _ _ _ => rfl) (perform_of_fst hanswer)
  have hrun : each = (_, w'') := heach
  rw [hrun]
  exact ⟨rfl, hwrites, hmappings, by decide +kernel⟩

end Service

end Telemetry
