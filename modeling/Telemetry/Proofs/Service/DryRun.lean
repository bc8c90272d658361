import Telemetry.Payload.Report
import Telemetry.Proofs.Service.OneByOne
/-
A report on a payload says what the write will come to.

A report reads the text, matches the channels and maps the rows as a write does. It asks for no equipment and no path: of a
group's equipment it checks the id alone, and it does so group by group, between the rows of one group and the next, as the
write asks for the equipments. What both ask of a catalog they are answered alike if its content is the same. So whatever a
write gets past, the report gets past; and what the report refuses, the write refuses in its first pass, which changes
nothing.

- `reportBulk_of_prepared`, `report_of_mapped`: what is mapped for a write is reported;
- `report_predicts`: a report on what a write comes to, and on why it cannot be made.
-/
namespace Telemetry

open Program

/-- a write that fails: no point has been stored or asked to be, and the mappings are as they were -/
structure FailsIdle {α : Type} (p : Action α) (w : World) : Prop where
  fails : ∃ e, (p.run w).1 = .error e
  attempted : World.surroundings.attempted p w = []
  writes : (p.run w).2.writes = w.writes
  mappings : (p.run w).2.mappings = w.mappings

namespace Payload

variable {content : String} {v v' : World}

/-! ## Reports that succeed -/

theorem reportBulk_ok {parsed : ParsedBulk} {channels : List Channel.Resolved} {reports : List GroupReport}
    (hparse : parseBulkText content = .ok parsed) (hchannels : (Channel.resolve parsed.channels).run v = (.ok channels, v'))
    (hgroups : parsed.groups.mapM (reportGroup channels) = .ok reports) : (reportBulk content).run v = (.ok reports, v') := by
  have hread : doing "bulk payload is not well formed" ((parseBulkText content).mapError .ofParser) = .ok parsed := by
    rw [hparse]
    rfl
  refine World.run_bind_ok.2 ⟨parsed, v, perform_ofExcept_ok.2 ⟨hread, rfl⟩, ?_⟩
  refine World.run_bind_ok.2 ⟨channels, v', perform_mapError_ok.2 hchannels, ?_⟩
  exact perform_ofExcept_ok.2 ⟨hgroups, rfl⟩

theorem report_ok {parsed : Parsed} {channels : List Channel.Resolved} {points : List Point}
    (hparse : parseText content = .ok parsed) (hchannels : (Channel.resolve parsed.channels).run v = (.ok channels, v'))
    (hpoints : Point.ofRows channels parsed.rows = .ok points) :
    (report content).run v = (.ok [.ofPoints none points], v') := by
  have hread : doing "payload is not well formed" ((parseText content).mapError .ofParser) = .ok parsed := by
    rw [hparse]
    rfl
  have hmade : parsed.points.run v = (.ok points, v') :=
    World.run_bind_ok.2 ⟨channels, v', hchannels, perform_ofExcept_ok.2 ⟨hpoints, rfl⟩⟩
  refine World.run_bind_ok.2 ⟨parsed, v, perform_ofExcept_ok.2 ⟨hread, rfl⟩, ?_⟩
  exact World.run_bind_ok.2 ⟨points, v', perform_mapError_ok.2 hmade, rfl⟩

theorem reportGroup_ok {channels : List Channel.Resolved} {g : ParsedGroup} {points : List Point}
    (hid : checkEquipmentId g.equipmentId = .ok ()) (hpoints : Point.ofRows channels g.rows = .ok points) :
    reportGroup channels g = .ok (.ofPoints (some g.equipmentId) points) := by
  unfold reportGroup
  rw [hid, hpoints]
  rfl

end Payload

namespace Service

open Payload (GroupReport)

/-- what a report tells of a group is what a summary of its write tells -/
structure Foretells (r : GroupReport) (s : WriteSummary) : Prop where
  equipmentId : r.equipmentId = some s.wkeid
  rows : r.rows = s.rowsWritten

variable {service : Service} {content : String} {v w w' : World}

/-! ## The first pass of a write, and a report -/

theorem checkEquipmentId_of_recordOf {wkeid : String} {e : Equipment} (h : recordOf w wkeid = .ok e) :
    checkEquipmentId wkeid = .ok () := by
  unfold recordOf at h
  split at h <;> cases h
  assumption

/-- the report on a group that is mapped for a write -/
def reportOf (m : Equipment × List Point) : GroupReport := .ofPoints (some m.1.wkeid) m.2

/-- groups that are mapped one after another are reported one after another -/
theorem reports_of_mapped {channels : List Channel.Resolved} {groups : List Payload.ParsedGroup}
    {mapped : List (Equipment × List Point)} (hdirectory : ∀ wkeid e, w.directory.lookup wkeid = some e → e.wkeid = wkeid)
    (h : (mapGroups channels groups).run w = (.ok mapped, w')) :
    groups.mapM (Payload.reportGroup channels) = .ok (mapped.map reportOf) := by
  induction groups generalizing mapped w with
  | nil =>
    cases h
    rfl
  | cons g groups ih =>
    obtain ⟨equipment, w1, hequipment, hrest⟩ := World.run_bind_ok.1 h
    obtain ⟨points, w2, hrows, hrest⟩ := World.run_bind_ok.1 hrest
    obtain ⟨rest, w3, hmapped, hdone⟩ := World.run_bind_ok.1 hrest
    cases hdone
    obtain ⟨hpoints, rfl⟩ := perform_ofExcept_ok.1 hrows
    obtain ⟨calls, hfind⟩ := equipmentFor_run w g.equipmentId
    obtain ⟨hrecord, hw1⟩ := Prod.mk.inj (hfind.symm.trans hequipment)
    have hwkeid : equipment.wkeid = g.equipmentId := hdirectory _ _ (lookup_of_recordOf hrecord)
    have hfirst := Payload.reportGroup_ok (checkEquipmentId_of_recordOf hrecord) hpoints
    have hothers := ih (w := w1) (by rw [← hw1]; exact hdirectory) hmapped
    rw [List.mapM_cons, hfirst, hothers, List.map_cons, reportOf, hwkeid]
    rfl

variable (hcontent : Catalog.content v = Catalog.content w) (hv : v.faults.LookUpsSteady) (hw : w.faults.LookUpsSteady)
  (hvlasts : Catalog.Lasting v) (hwlasts : Catalog.Lasting w)

include hcontent hv hw hvlasts hwlasts

/-- what is matched for a write is matched for a report -/
theorem resolve_dry {channels : List Payload.DeclaredChannel} {resolved : List Channel.Resolved}
    (h : (Channel.resolve channels).run w = (.ok resolved, w')) :
    ∃ v', (Channel.resolve channels).run v = (.ok resolved, v') := by
  have hanswer := Catalog.resolve_of_content hw hwlasts hv hvlasts hcontent channels
  rw [h] at hanswer
  exact ⟨_, perform_of_fst hanswer⟩

/-- groups that are mapped for a write are reported -/
theorem reportBulk_of_prepared {payload : Payload.Bulk} {mapped : List (Equipment × List Point)}
    (hdirectory : ∀ wkeid e, w.directory.lookup wkeid = some e → e.wkeid = wkeid)
    (hread : (Json.read content).bind Payload.Bulk.ofJson? = some payload)
    (h : (prepare payload).run w = (.ok mapped, w')) :
    ((Payload.reportBulk content).run v).1 = .ok (mapped.map reportOf) := by
  obtain ⟨parsed, w1, hfirst, hrest⟩ := World.run_bind_ok.1 h
  obtain ⟨channels, w2, hresolve, hmapped⟩ := World.run_bind_ok.1 hrest
  obtain ⟨hparse, rfl⟩ := perform_ofExcept_ok.1 (perform_mapError_ok.1 hfirst)
  obtain ⟨v1, hdry⟩ := resolve_dry hcontent hv hw hvlasts hwlasts hresolve
  have hkept := World.run_directory (Channel.resolve parsed.channels) w
  rw [hresolve] at hkept
  have htext : Payload.parseBulkText content = .ok parsed := by
    unfold Payload.parseBulkText
    rw [hread]
    exact hparse
  rw [Payload.reportBulk_ok htext hdry (reports_of_mapped (by rw [hkept]; exact hdirectory) hmapped)]

/-- rows that are mapped for a write are reported -/
theorem report_of_mapped {wkeid : String} {payload : Payload.Single} {m : Equipment × List Point}
    (hread : (Json.read content).bind Payload.Single.ofJson? = some payload)
    (h : (mapSingle wkeid payload).run w = (.ok m, w')) :
    ((Payload.report content).run v).1 = .ok [.ofPoints none m.2] := by
  obtain ⟨equipment, w1, hequipment, hrest⟩ := World.run_bind_ok.1 h
  obtain ⟨parsed, w2, hfirst, hrest⟩ := World.run_bind_ok.1 hrest
  obtain ⟨points, w3, hmade, hdone⟩ := World.run_bind_ok.1 hrest
  cases hdone
  obtain ⟨hparse, rfl⟩ := perform_ofExcept_ok.1 (perform_mapError_ok.1 hfirst)
  obtain ⟨channels, w4, hresolve, hrows⟩ := World.run_bind_ok.1 hmade
  obtain ⟨hpoints, -⟩ := perform_ofExcept_ok.1 hrows
  -- the catalog is asked once the equipment is found
  have hlater := (Catalog.SameLookUps.refl hwlasts).inspects hw (equipmentFor_inspects wkeid)
  rw [hequipment] at hlater
  obtain ⟨v1, hdry⟩ := resolve_dry (hcontent.trans hlater.content.symm) hv (hlater.steady hw) hvlasts hlater.lasting hresolve
  have htext : Payload.parseText content = .ok parsed := by
    unfold Payload.parseText
    rw [hread]
    exact hparse
  rw [Payload.report_ok htext hdry hpoints]

omit hcontent hv hw hvlasts hwlasts

/-! ## What is left of a write -/

/-- the groups that get paths are those that were mapped -/
theorem foretells_of_routed {S : Surroundings} {mapped : List (Equipment × List Point)} {planned : List Planned}
    {s s' : S.State} (h : Routed S service s mapped planned s') :
    List.Forall₂ Foretells (mapped.map reportOf) (planned.map Planned.summary) := by
  induction h with
  | nil s => exact .nil
  | empty hrest ih => exact .cons ⟨rfl, rfl⟩ ih
  | path hpoints hpath hrest ih => exact .cons ⟨rfl, rfl⟩ ih

/-- a write for several equipments that succeeds has mapped every group, and sums up what was mapped -/
theorem prepared_of_writeBulk {payload : Payload.Bulk} {summaries : List WriteSummary}
    (h : (service.writeBulk payload).run w = (.ok summaries, w')) :
    ∃ mapped w1, (prepare payload).run w = (.ok mapped, w1) ∧ List.Forall₂ Foretells (mapped.map reportOf) summaries := by
  rw [writeBulk_eq] at h
  obtain ⟨mapped, w1, hprepare, hrest⟩ := World.run_bind_ok.1 h
  obtain ⟨planned, w2, hplan, hstore⟩ := World.run_bind_ok.1 hrest
  have hstored := storePlanned_stored (S := World.surroundings.toSurroundings) planned w2
  rw [World.perform_surroundings, hstore] at hstored
  cases hstored
  exact ⟨mapped, w1, hprepare, foretells_of_routed (planGroups_ok (S := World.surroundings.toSurroundings).1 hplan)⟩

/-- a write for one equipment that succeeds has mapped the rows, settled a path and carried out the plan -/
theorem write_ok {wkeid : String} {payload : Payload.Single} {summary : WriteSummary}
    (h : (service.write wkeid payload).run w = (.ok summary, w')) :
    ∃ m w1 path w2, (mapSingle wkeid payload).run w = (.ok m, w1) ∧ (service.settle m).run w1 = (.ok path, w2) ∧
      summary = Planned.summary ⟨wkeid, path, m.2⟩ ∧
      CarriedOut World.surroundings.toSurroundings ⟨wkeid, path, m.2⟩ w2 w' := by
  rw [write_eq] at h
  obtain ⟨m, w1, hmap, hrest⟩ := World.run_bind_ok.1 h
  obtain ⟨path, w2, hsettle, hcarry⟩ := World.run_bind_ok.1 hrest
  refine ⟨m, w1, path, w2, hmap, hsettle, ?_⟩
  rcases carryOut_cases World.surroundings.toSurroundings ⟨wkeid, path, m.2⟩ w2 with ⟨w3, hdone⟩ | ⟨_, _, w3, hrefused⟩
  · cases hcarry.symm.trans hdone.perform
    exact ⟨rfl, hdone⟩
  · cases hcarry.symm.trans hrefused.perform

/-- the summary of such a write counts its points -/
theorem mapped_of_write {wkeid : String} {payload : Payload.Single} {summary : WriteSummary}
    (h : (service.write wkeid payload).run w = (.ok summary, w')) :
    ∃ m w1, (mapSingle wkeid payload).run w = (.ok m, w1) ∧ summary.rowsWritten = m.2.length := by
  obtain ⟨m, w1, path, w2, hmap, hsettle, rfl, -⟩ := write_ok h
  refine ⟨m, w1, hmap, ?_⟩
  unfold settle at hsettle
  split_ifs at hsettle with hempty
  · cases hsettle
    rw [List.isEmpty_iff.1 hempty]
    rfl
  · obtain ⟨found, w3, -, hpure⟩ := World.run_bind_ok.1 hsettle
    cases hpure
    rfl

/-- a write for several equipments fails idle if its groups cannot be mapped -/
theorem writeBulk_idle {payload : Payload.Bulk} (h : ∀ mapped w1, (prepare payload).run w ≠ (.ok mapped, w1)) :
    FailsIdle (service.writeBulk payload) w := by
  have hnot (mapped : List (Equipment × List Point)) (w1 : World) :
      ¬ Prepared World.surroundings.toSurroundings payload w mapped w1 :=
    fun hprepared => h mapped w1 (prepare_ok.2 hprepared)
  obtain ⟨⟨e, hfails⟩, hattempted, hmappings, hwrites⟩ := writeBulk_of_not_prepared (S := World.surroundings.toSurroundings)
    (s := w) hnot
  exact ⟨⟨e, hfails⟩, hattempted, hwrites, hmappings⟩

theorem mapSingle_quiet (wkeid : String) (payload : Payload.Single) : (mapSingle wkeid payload).Only Call.Quiet := by
  refine only_bind (equipmentFor_quiet wkeid) fun equipment => ?_
  refine only_bind (only_mapError (only_ofExcept _)) fun parsed => ?_
  exact only_bind (Payload.points_quiet parsed) fun points => only_pure _

/-- and so does a write for one -/
theorem write_idle {wkeid : String} {payload : Payload.Single} (h : ∀ m w1, (mapSingle wkeid payload).run w ≠ (.ok m, w1)) :
    FailsIdle (service.write wkeid payload) w := by
  have hquiet (part : Part) : (mapSingle wkeid payload).Only fun c => c.changes ≠ some part :=
    only_mono (fun _ hc => hc.keeps part) (mapSingle_quiet wkeid payload)
  rcases hmap : (mapSingle wkeid payload).run w with ⟨e | m, w1⟩
  · have hwrites := World.surroundings.writes_perform (hquiet .writes) w
    have hmappings := World.surroundings.mappings_perform (hquiet .mappings) w
    have hattempted := World.surroundings.attempted_eq_nil (hquiet .writes) w
    rw [World.perform_surroundings, hmap] at hwrites hmappings
    have hrun : (service.write wkeid payload).run w = (.error e, w1) := by
      rw [write_eq, World.run_bind_of_error hmap]
    refine ⟨⟨e, ?_⟩, ?_, ?_, ?_⟩
    · rw [hrun]
    · rw [write_eq, World.surroundings.attempted_bind_error hmap, hattempted]
    · rw [hrun]
      exact hwrites
    · rw [hrun]
      exact hmappings
  · exact absurd hmap (h m w1)

/-! ## Reports and writes -/

/-- **A report says what the write will come to.** Take a text that is a payload for several equipments or for one, a world
whose directory gives every record under the id it carries, and a catalog of the same content in which the text is reported
on, where no look-up's answer depends on when a cached definition expires. If the write succeeds, the report does, with an
entry for each summary, in the same order, that has the equipment's id and as many rows as were written; for one equipment it
is one entry. If the report fails, so does the write, and it has stored nothing and left the mappings as they were. -/
theorem report_predicts (service : Service) (content : String) (v w : World)
    (hcontent : Catalog.content v = Catalog.content w) (hv : v.faults.LookUpsSteady) (hw : w.faults.LookUpsSteady)
    (hvlasts : Catalog.Lasting v) (hwlasts : Catalog.Lasting w)
    (hdirectory : ∀ wkeid e, w.directory.lookup wkeid = some e → e.wkeid = wkeid) :
    (∀ payload, (Json.read content).bind Payload.Bulk.ofJson? = some payload →
      (∀ summaries w', (service.writeBulk payload).run w = (.ok summaries, w') →
        ∃ reports, ((Payload.reportBulk content).run v).1 = .ok reports ∧ List.Forall₂ Foretells reports summaries) ∧
      ∀ failure, ((Payload.reportBulk content).run v).1 = .error failure → FailsIdle (service.writeBulk payload) w) ∧
    ∀ wkeid payload, (Json.read content).bind Payload.Single.ofJson? = some payload →
      (∀ summary w', (service.write wkeid payload).run w = (.ok summary, w') →
        ∃ r, ((Payload.report content).run v).1 = .ok [r] ∧ r.rows = summary.rowsWritten) ∧
      ∀ failure, ((Payload.report content).run v).1 = .error failure → FailsIdle (service.write wkeid payload) w := by
  refine ⟨fun payload hread => ⟨fun summaries w' h => ?_, fun failure h => ?_⟩,
    fun wkeid payload hread => ⟨fun summary w' h => ?_, fun failure h => ?_⟩⟩
  · obtain ⟨mapped, w1, hprepare, hforetells⟩ := prepared_of_writeBulk h
    exact ⟨_, reportBulk_of_prepared hcontent hv hw hvlasts hwlasts hdirectory hread hprepare, hforetells⟩
  · refine writeBulk_idle fun mapped w1 hprepare => ?_
    rw [reportBulk_of_prepared hcontent hv hw hvlasts hwlasts hdirectory hread hprepare] at h
    cases h
  · obtain ⟨m, w1, hmap, hrows⟩ := mapped_of_write h
    exact ⟨_, report_of_mapped hcontent hv hw hvlasts hwlasts hread hmap, hrows.symm⟩
  · refine write_idle fun m w1 hmap => ?_
    rw [report_of_mapped hcontent hv hw hvlasts hwlasts hread hmap] at h
    cases h

/-! ## A report beside no plant -/

theorem recordsCarryIds_of_mem (h : ∀ entry ∈ w.directory, entry.2.wkeid = entry.1) :
    ∀ wkeid e, w.directory.lookup wkeid = some e → e.wkeid = wkeid :=
  fun _ _ hfound => h _ (Cache.mem_of_lookup hfound)

/-- the definitions of the plant, and nothing else -/
def definitionsOnly : World := { definitions := plant.definitions }

def fanTime : String :=
  "\x7b\"meta\":\x7b\"channels\":[\x7b\"code\":\"time\",\"uom\":\"s\",\"dimension\":\"time\"\x7d]\x7d," ++
    "\"equipments\":[\x7b\"equipmentId\":\"M0:S0\",\"rows\":[[\"2024-01-01T00:00:00Z\"]]\x7d]\x7d"

/-- a load without its dimension -/
def bareLoad : String := "\x7b\"meta\":\x7b\"channels\":[\x7b\"code\":\"load\"\x7d]\x7d\x7d"

/-- the report on the fan's time foretells its row; the report on the bare load fails, and so does a write of it -/
theorem report_predicts_fan :
    let service : Service := ⟨"ops", 24⟩
    Catalog.content definitionsOnly = Catalog.content enabledPlant ∧
    (∃ payload w' reports, (Json.read fanTime).bind Payload.Bulk.ofJson? = some payload ∧
      (service.writeBulk payload).run enabledPlant = (.ok [⟨"M0:S0", some ⟨"FAN", "ACME", "E0"⟩, 1⟩], w') ∧
      ((Payload.reportBulk fanTime).run definitionsOnly).1 = .ok reports ∧
      List.Forall₂ Foretells reports [⟨"M0:S0", some ⟨"FAN", "ACME", "E0"⟩, 1⟩]) ∧
    ∃ payload failure, (Json.read bareLoad).bind Payload.Single.ofJson? = some payload ∧
      ((Payload.report bareLoad).run definitionsOnly).1 = .error failure ∧
      FailsIdle (service.write "M0:S0" payload) enabledPlant := by
  intro service
  have hcontent : Catalog.content definitionsOnly = Catalog.content enabledPlant := by
    rw [Catalog.content_of_coherent (Catalog.coherent_of_absent rfl) fun _ _ => rfl,
      Catalog.content_of_coherent (Catalog.coherent_of_absent rfl) fun _ _ => rfl]
    rfl
  have hvlasts : Catalog.Lasting definitionsOnly := Catalog.lasting_of_absent rfl
  have hwlasts : Catalog.Lasting enabledPlant := Catalog.lasting_of_absent rfl
  have hdirectory := recordsCarryIds_of_mem (w := enabledPlant) (by decide)
  obtain ⟨hbulk, -⟩ := report_predicts service fanTime definitionsOnly enabledPlant hcontent (fun _ _ _ => rfl)
    (fun _ _ _ => rfl) hvlasts hwlasts hdirectory
  obtain ⟨-, hsingle⟩ := report_predicts service bareLoad definitionsOnly enabledPlant hcontent (fun _ _ _ => rfl)
    (fun _ _ _ => rfl) hvlasts hwlasts hdirectory
  refine ⟨hcontent, ?_, ?_⟩
  · have hrun : ((Json.read fanTime).bind Payload.Bulk.ofJson?).map (fun p => ((service.writeBulk p).run enabledPlant).1) =
        some (.ok [⟨"M0:S0", some ⟨"FAN", "ACME", "E0"⟩, 1⟩]) := by decide +kernel
    obtain ⟨payload, hread, hwritten⟩ := Option.map_eq_some_iff.1 hrun
    have hwrite := perform_of_fst hwritten
    obtain ⟨reports, hreports, hforetold⟩ := (hbulk payload hread).1 _ _ hwrite
    exact ⟨payload, _, reports, hread, hwrite, hreports, hforetold⟩
  · have hreport : ((Payload.report bareLoad).run definitionsOnly).1 =
        .error (.ofService (.channelMismatch "load" "dimension" "power" "")) := by decide +kernel
    have hread : ((Json.read bareLoad).bind Payload.Single.ofJson?).isSome := by decide +kernel
    obtain ⟨payload, hread⟩ := Option.isSome_iff_exists.1 hread
    exact ⟨payload, _, hread, hreport, (hsingle "M0:S0" payload hread).2 _ hreport⟩

end Service

end Telemetry
