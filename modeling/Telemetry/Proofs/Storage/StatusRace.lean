import Telemetry.Proofs.Alike
import Telemetry.Proofs.Program.Race
import Telemetry.Proofs.Storage.Coverage
import Telemetry.Proofs.Storage.Evolution
/-
Setting a status while mappings are provisioned.

Setting a status reads a mapping and writes it back whole, in two calls; provisioning is one call. In a `StatusRace` the two
calls, and the evictions after them, are mixed with provision calls in any way. How many writers make the provision calls
does not matter: what they do to the store is the list of their calls, in the order in which they are made.

- `passes`: what a race comes to while the mapping is neither read nor written;
- `status_race`: the status is set in the end, and exactly those codes are lost that joined the mapping between the two
  calls, unless another mapping covers them or they are provisioned once more;
- `joined_code_lost`: such a loss.
-/
namespace Telemetry.Storage

open Program

/-! ## The race -/

/-- provisions a mapping for each candidate, and tells all outcomes after those of earlier calls -/
def provisionEach (earlier : List ProvisionOutcome) : List Candidate → Action (List ProvisionOutcome)
  | [] => return earlier
  | candidate :: candidates => do
    let outcome ← provisionPlainly candidate
    provisionEach (earlier ++ [outcome]) candidates

/-- setting a status on the left, provision calls on the right -/
abbrev StatusRace := Race World ServiceError Mapping (List ProvisionOutcome)

/-- the race before any call -/
def StatusRace.start (code : String) (status : Status) (candidates : List Candidate) (w : World) : StatusRace :=
  { left := setStatus code status, right := provisionEach [] candidates, state := w }

/-- one of the outcomes tells that its mapping covers the equipment code -/
def Reported (outcomes : List ProvisionOutcome) (code : String) : Prop :=
  ∃ outcome ∈ outcomes, code ∈ outcome.mapping.equipmentCodes

instance (outcomes : List ProvisionOutcome) (code : String) : Decidable (Reported outcomes code) :=
  inferInstanceAs (Decidable (∃ outcome ∈ outcomes, code ∈ outcome.mapping.equipmentCodes))

/-- the equipment codes that calls provision -/
def provisioned (made : List (Side × Moment World)) : List String :=
  made.filterMap fun call => call.2.call.candidate?.map (·.equipmentCode)

theorem reported_append {o1 o2 : List ProvisionOutcome} {code : String} :
    Reported (o1 ++ o2) code ↔ Reported o1 code ∨ Reported o2 code := by
  simp only [Reported, List.mem_append, or_and_right, exists_or]

theorem provisioned_append (made later : List (Side × Moment World)) :
    provisioned (made ++ later) = provisioned made ++ provisioned later :=
  List.filterMap_append

/-! ## Between the two calls, before and after -/

/-- what a race comes to while mappings change by provisioning alone: the calls made since, and the outcomes told since -/
structure Passed (earlier : List ProvisionOutcome) (r r' : StatusRace) (since : List (Side × Moment World))
    (told : List ProvisionOutcome) : Prop where
  faults : r'.state.faults = r.state.faults
  made : r'.made = r.made ++ since
  right : ∃ candidates, r'.right = provisionEach (earlier ++ told) candidates
  retains : r.state.mappings.Retains r'.state.mappings
  covers : ∀ code, r'.state.mappings.Covers code ↔ r.state.mappings.Covers code ∨ code ∈ provisioned since
  told_covered : ∀ code, Reported told code → r'.state.mappings.Covers code

variable {earlier told told' : List ProvisionOutcome} {r r1 r2 : StatusRace} {since since' : List (Side × Moment World)}
  {candidates : List Candidate}

theorem Passed.refl (h : r.right = provisionEach earlier candidates) : Passed earlier r r [] [] where
  faults := rfl
  made := (List.append_nil _).symm
  right := ⟨candidates, by rw [List.append_nil, h]⟩
  retains := .refl _
  covers := by simp [provisioned]
  told_covered := by simp [Reported]

theorem Passed.trans (h1 : Passed earlier r r1 since told) (h2 : Passed (earlier ++ told) r1 r2 since' told') :
    Passed earlier r r2 (since ++ since') (told ++ told') where
  faults := h2.faults.trans h1.faults
  made := by rw [h2.made, h1.made, List.append_assoc]
  right := by simpa only [List.append_assoc] using h2.right
  retains := h1.retains.trans h2.retains
  covers code := by rw [h2.covers, h1.covers, provisioned_append, List.mem_append, or_assoc]
  told_covered code h := (reported_append.1 h).elim (fun h => h2.retains.covers (h1.told_covered code h)) (h2.told_covered code)

theorem answer_mappingProvision {w : World} (hw : w.faults.StoresNeverFail) (c : Candidate) :
    ∃ id, (w.answer (.mappingProvision c)).1 = .ok (w.mappings.provision id c).1 ∧
      (w.answer (.mappingProvision c)).2.mappings = (w.mappings.provision id c).2 :=
  ⟨w.ids w.idsTaken, by simp only [World.answer, World.onRepository, hw w.calls, World.provision],
    by simp only [World.answer, World.onRepository, hw w.calls, World.provision]⟩

/-- what a provision call reports is covered -/
theorem Passed.provision {candidate : Candidate} (hfaults : r.state.faults.StoresNeverFail)
    (h : r.right = provisionEach earlier (candidate :: candidates)) :
    ∃ outcome, Passed earlier r (r.step World.answer .right) [(.right, ⟨r.state, .mappingProvision candidate⟩)] [outcome] ∧
      (r.step World.answer .right).right = provisionEach (earlier ++ [outcome]) candidates := by
  have hstep : r.step World.answer .right = _ := Race.step_right (c := .mappingProvision candidate) h
  obtain ⟨id, hanswer, hmappings⟩ := answer_mappingProvision hfaults candidate
  obtain ⟨hstored, -, -⟩ := r.state.mappings.provision_outcome id candidate
  have hright : (r.step World.answer .right).right =
      provisionEach (earlier ++ [(r.state.mappings.provision id candidate).1]) candidates := by
    rw [hstep, hanswer]
    rfl
  have hlater : (r.step World.answer .right).state.mappings = (r.state.mappings.provision id candidate).2 := by
    rw [hstep, ← hmappings]
  refine ⟨(r.state.mappings.provision id candidate).1, ⟨?_, ?_, ⟨candidates, hright⟩, ?_, ?_, ?_⟩, hright⟩
  · rw [hstep]
    exact (World.answer_fixed r.state _).2
  · rw [hstep]
  · rw [hlater]
    exact Store.provision_retains_places _ _ _
  · intro code
    rw [hlater, Store.provision_covers]
    simp [provisioned, Call.candidate?]
  · rintro code ⟨outcome, houtcome, hreported⟩
    rw [List.mem_singleton.1 houtcome] at hreported
    rw [hlater]
    exact ⟨_, hstored, hreported⟩

/-- a call on the left that changes no mapping -/
theorem Passed.quiet {c : Call} {next : c.Answer → Action Mapping} (hc : c.Quiet) (hleft : r.left = .step c next)
    (h : r.right = provisionEach earlier candidates) :
    Passed earlier r (r.step World.answer .left) [(.left, ⟨r.state, c⟩)] [] ∧
      (r.step World.answer .left).right = provisionEach earlier candidates ∧
      (r.step World.answer .left).left = next (r.state.answer c).1 := by
  have hstep : r.step World.answer .left = _ := Race.step_left hleft
  have hmappings : (r.state.answer c).2.mappings = r.state.mappings := World.mappings_answer _ _ (hc.keeps .mappings)
  have hcandidate : c.candidate? = none := by
    rw [Option.eq_none_iff_forall_ne_some]
    intro candidate hcandidate
    rw [Call.candidate?_eq_some.1 hcandidate] at hc
    cases hc
  have hno : provisioned [(.left, ⟨r.state, c⟩)] = [] := by simp [provisioned, hcandidate]
  rw [hstep]
  refine ⟨⟨(World.answer_fixed r.state c).2, rfl, ⟨candidates, by rw [List.append_nil, h]⟩, ?_, ?_, ?_⟩, h, rfl⟩
  · exact hmappings.symm ▸ Store.Retains.refl _
  · simp [hmappings, hno]
  · simp [Reported]

/-- what a race comes to while the left side makes no calls, or quiet ones -/
theorem passes (schedule : List Side) (hfaults : r.state.faults.StoresNeverFail)
    (hright : r.right = provisionEach earlier candidates) (hleft : .left ∉ schedule ∨ r.left.Only Call.Quiet) :
    ∃ since told, Passed earlier r (r.run World.answer schedule) since told := by
  induction schedule generalizing r earlier candidates with
  | nil => exact ⟨[], [], .refl hright⟩
  | cons side schedule ih =>
    change ∃ since told, Passed earlier r ((r.step World.answer side).run World.answer schedule) since told
    cases side with
    | left =>
      have hquiet : r.left.Only Call.Quiet := hleft.resolve_left fun h => h List.mem_cons_self
      cases hprogram : r.left with
      | done _ | fail _ =>
        have hended : r.left.Ended := by rw [hprogram]; trivial
        rw [Race.step_left_of_ended hended]
        exact ih hfaults hright (Or.inr hquiet)
      | step c next =>
        rw [hprogram] at hquiet
        obtain ⟨hfirst, hright', hleft'⟩ := Passed.quiet hquiet.1 hprogram hright
        obtain ⟨since, told, hrest⟩ := ih (hfirst.faults ▸ hfaults) hright' (Or.inr (hleft' ▸ hquiet.2 _))
        exact ⟨_, told, hfirst.trans (by rwa [List.append_nil])⟩
    | right =>
      have hleft' : .left ∉ schedule ∨ (r.step World.answer .right).left.Only Call.Quiet := by
        rw [Race.step_right_left]
        exact hleft.imp_left fun h hmem => h (List.mem_cons_of_mem _ hmem)
      cases candidates with
      | nil =>
        have hended : r.right.Ended := by rw [hright]; trivial
        rw [Race.step_right_of_ended hended] at hleft' ⊢
        exact ih hfaults hright hleft'
      | cons candidate candidates =>
        obtain ⟨outcome, hfirst, hright'⟩ := Passed.provision hfaults hright
        obtain ⟨since, told, hrest⟩ := ih (hfirst.faults ▸ hfaults) hright' hleft'
        exact ⟨_, _, hfirst.trans hrest⟩

/-! ## The two calls -/

/-- what setting a status does with the mapping it has read, once the status is changed -/
def putBack (m : Mapping) : Action Mapping := do
  let stored ← upsert m
  evictAll stored.equipmentCodes
  return stored

/-- the call that reads the mapping -/
theorem step_read {code : String} {status : Status} {m : Mapping} (hfaults : r.state.faults.StoresNeverFail)
    (hleft : r.left = setStatus code status) (hm : r.state.mappings.get? (.equipmentCode code) = some m) :
    let r' := r.step World.answer .left
    r'.left = putBack { m with status } ∧ r'.right = r.right ∧ r'.state.mappings = r.state.mappings ∧
      r'.state.faults = r.state.faults ∧ r'.made = r.made ++ [(.left, ⟨r.state, .mappingGet (.equipmentCode code)⟩)] := by
  have hanswer : (r.state.answer (.mappingGet (.equipmentCode code))).1 = .ok (some m) := by
    simp only [World.answer, World.onRepository, hfaults r.state.calls, hm]
  rw [Race.step_left (c := .mappingGet (.equipmentCode code)) hleft, hanswer]
  exact ⟨rfl, rfl, World.mappings_answer _ _ (by simp [Call.changes]), (World.answer_fixed _ _).2, rfl⟩

/-- the call that writes it back -/
theorem step_written {m : Mapping} (hfaults : r.state.faults.StoresNeverFail) (hleft : r.left = putBack m) :
    let r' := r.step World.answer .left
    r'.left = (evictAll m.equipmentCodes >>= fun _ => pure m) ∧ r'.right = r.right ∧
      r'.state.mappings = r.state.mappings.upsert m ∧ r'.state.faults = r.state.faults ∧
      r'.made = r.made ++ [(.left, ⟨r.state, .mappingUpsert m⟩)] := by
  have hanswer : (r.state.answer (.mappingUpsert m)).1 = .ok m ∧
      (r.state.answer (.mappingUpsert m)).2.mappings = r.state.mappings.upsert m := by
    simp only [World.answer, World.onRepository, hfaults r.state.calls, and_self]
  rw [Race.step_left (c := .mappingUpsert m) hleft, hanswer.1]
  exact ⟨rfl, rfl, hanswer.2, (World.answer_fixed _ _).2, rfl⟩

theorem evictAll_returns (codes : List String) (m : Mapping) : (evictAll codes >>= fun _ => pure m).Returns m := by
  induction codes with
  | nil => rfl
  | cons code codes ih => exact fun _ => ih

/-- which of the reported codes are covered after a mapping is put back: all but those that joined it since it was read,
unless another mapping covers them, or they are provisioned once more -/
theorem covers_iff_of_written {joined written : Mapping} {i : Nat} {s : Store} (hjoined : s[i]? = some joined)
    (hwritten : r.state.mappings = s.set i written) (hearlier : ∀ code, Reported earlier code → s.Covers code)
    (hpassed : Passed earlier r r1 since told) {code : String} (hcode : Reported (earlier ++ told) code) :
    r1.state.mappings.Covers code ↔ ¬ (code ∈ joined.equipmentCodes ∧ code ∉ written.equipmentCodes) ∨
      Store.Covers (s.eraseIdx i) code ∨ code ∈ provisioned since := by
  rw [hpassed.covers, hwritten, Store.covers_set hjoined]
  rcases reported_append.1 hcode with hcode | hcode
  · have hcovered := (Store.covers_iff_at hjoined).1 (hearlier code hcode)
    tauto
  · have hcovered := hpassed.told_covered code hcode
    rw [hpassed.covers, hwritten, Store.covers_set hjoined] at hcovered
    tauto

/-- what a race comes to that is run to its end once the mapping is read -/
theorem put_back_race {m written : Mapping} {i : Nat} (schedule : List Side) (hfaults : r.state.faults.StoresNeverFail)
    (hleft : r.left = putBack written) (hright : r.right = provisionEach earlier candidates)
    (hm : r.state.mappings.FirstAt i m) (hid : written.id = m.id)
    (hearlier : ∀ code, Reported earlier code → r.state.mappings.Covers code)
    (hover : (r.run World.answer schedule).Over) :
    ∃ (joined last : Mapping) (wr : World) (between after : List (Side × Moment World)) (outcomes : List ProvisionOutcome),
      let r' := r.run World.answer schedule
      r'.made = r.made ++ between ++ (.left, ⟨wr, .mappingUpsert written⟩) :: after ∧
      wr.mappings.FirstAt i joined ∧ m.Extends joined ∧ r'.left = .done written ∧ r'.right = .done outcomes ∧
      r'.state.mappings.FirstAt i last ∧ written.Extends last ∧ last.status = written.status ∧
      ∀ x, Reported outcomes x → (r'.state.mappings.Covers x ↔
        ¬ (x ∈ joined.equipmentCodes ∧ x ∉ written.equipmentCodes) ∨
          Store.Covers (wr.mappings.eraseIdx i) x ∨ x ∈ provisioned after) := by
  obtain ⟨hleftOver, hrightOver⟩ := hover
  obtain ⟨s1, s2, rfl, hs1⟩ := Race.exists_left_step (by rw [hleft]; exact id) hleftOver
  rw [Race.run_append, Race.run_cons] at hleftOver hrightOver ⊢
  -- provision calls alone, then the call that writes, then anything
  obtain ⟨between, told, hpassed⟩ := passes s1 hfaults hright (Or.inl hs1)
  have hleft1 : (r.run World.answer s1).left = putBack written := (Race.left_run hs1 r).trans hleft
  generalize r.run World.answer s1 = r1 at hleftOver hrightOver hpassed hleft1 ⊢
  obtain ⟨hleft2, hright2, hmappings2, hfaults2, hmade2⟩ := step_written (hpassed.faults ▸ hfaults) hleft1
  generalize r1.step World.answer .left = r2 at hleftOver hrightOver hleft2 hright2 hmappings2 hfaults2 hmade2 ⊢
  obtain ⟨candidates1, hright1⟩ := hpassed.right
  have hquiet : r2.left.Only Call.Quiet := hleft2 ▸ only_bind (evictAll_quiet _) fun _ => only_pure _
  obtain ⟨after, told', hpassed'⟩ :=
    passes s2 (by rw [hfaults2, hpassed.faults]; exact hfaults) (hright2.trans hright1) (Or.inr hquiet)
  have hreturns : (r2.run World.answer s2).left.Returns written :=
    Race.left_run_returns s2 (hleft2 ▸ evictAll_returns _ written)
  -- the place of the mapping
  obtain ⟨joined, hjoined, hext, -⟩ := hpassed.retains.firstAt hm
  rw [Store.upsert_eq_set hjoined (hid.trans hext.id.symm)] at hmappings2
  have hwritten : r2.state.mappings.FirstAt i written := hmappings2 ▸ hjoined.set (hid.trans hext.id.symm)
  obtain ⟨last, hlast, hlastext, hstatus⟩ := hpassed'.retains.firstAt hwritten
  refine ⟨joined, last, r1.state, between, after, earlier ++ told ++ told', ?_, hjoined, hext, hreturns.eq_done hleftOver,
    ?_, hlast, hlastext, hstatus, fun x hx => ?_⟩
  · rw [hpassed'.made, hmade2, hpassed.made, List.append_assoc, List.singleton_append]
  · obtain ⟨_ | ⟨candidate, candidates2⟩, hright'⟩ := hpassed'.right
    · exact hright'
    · rw [hright'] at hrightOver
      exact hrightOver.elim
  · refine covers_iff_of_written hjoined.found hmappings2 (fun code hcode => ?_) hpassed' hx
    exact (reported_append.1 hcode).elim (fun h => hpassed.retains.covers (hearlier code h)) (hpassed.told_covered code)

/-- **A status that is set while mappings are provisioned.** Take a store whose ids are apart and that covers the code, the
two calls that set a status through this code, and any provision calls, in any order, until all are done. The calls made
have the two among them: the first reads a mapping `m`, the second finds it with the codes that have joined it since, and
puts `m` with the status in its place. In the end this place has the status and still covers the code. A code that one of
the provision calls reported is covered in the end unless it joined the mapping between the two calls; and such a code is
covered exactly if another mapping covered it when `m` was put back, or if it was provisioned once more after that. -/
theorem status_race (w : World) (code : String) (status : Status) (candidates : List Candidate) (schedule : List Side)
    (hids : (w.mappings.map (·.id)).Nodup) (hcode : w.mappings.Covers code) (hfaults : w.faults.StoresNeverFail)
    (hover : ((StatusRace.start code status candidates w).run World.answer schedule).Over) :
    ∃ (m joined last : Mapping) (i : Nat) (rd wr : World) (before between after : List (Side × Moment World))
      (outcomes : List ProvisionOutcome),
      let r := (StatusRace.start code status candidates w).run World.answer schedule
      r.made = before ++ (.left, ⟨rd, .mappingGet (.equipmentCode code)⟩) :: between ++
        (.left, ⟨wr, .mappingUpsert { m with status }⟩) :: after ∧
      rd.mappings.get? (.equipmentCode code) = some m ∧ wr.mappings.FirstAt i joined ∧ m.Extends joined ∧
      r.left = .done { m with status } ∧ r.right = .done outcomes ∧
      r.state.mappings.FirstAt i last ∧ { m with status }.Extends last ∧ code ∈ last.equipmentCodes ∧
      last.status = status ∧
      ∀ x, Reported outcomes x → (r.state.mappings.Covers x ↔
        ¬ (x ∈ joined.equipmentCodes ∧ x ∉ m.equipmentCodes) ∨
          Store.Covers (wr.mappings.eraseIdx i) x ∨ x ∈ provisioned after) := by
  obtain ⟨s1, s2, rfl, hs1⟩ := Race.exists_left_step id hover.1
  rw [Race.run_append, Race.run_cons] at hover ⊢
  obtain ⟨before, told, hpassed⟩ :=
    passes (r := StatusRace.start code status candidates w) s1 hfaults rfl (Or.inl hs1)
  have hleft1 : ((StatusRace.start code status candidates w).run World.answer s1).left = setStatus code status :=
    Race.left_run hs1 _
  generalize (StatusRace.start code status candidates w).run World.answer s1 = r1 at hover hpassed hleft1 ⊢
  have hfaults1 : r1.state.faults.StoresNeverFail := hpassed.faults ▸ hfaults
  obtain ⟨m, hm⟩ := Store.get?_of_covers (hpassed.retains.covers hcode)
  obtain ⟨i, hfirst⟩ := hpassed.retains.found_firstAt hids hcode hm
  obtain ⟨candidates1, hright1⟩ := hpassed.right
  obtain ⟨hleft2, hright2, hmappings2, hfaults2, hmade2⟩ := step_read hfaults1 hleft1 hm
  generalize r1.step World.answer .left = r2 at hover hleft2 hright2 hmappings2 hfaults2 hmade2 ⊢
  obtain ⟨joined, last, wr, between, after, outcomes, hmade, hjoined, hext, hleft, hright, hlast, hlastext, hstatus, hcodes⟩ :=
    put_back_race (m := m) s2 (hfaults2 ▸ hfaults1) hleft2 (hright2.trans hright1) (hmappings2 ▸ hfirst) rfl
      (fun x hx => hmappings2 ▸ hpassed.told_covered x hx) hover
  refine ⟨m, joined, last, i, r1.state, wr, r1.made, between, after, outcomes, ?_, hm, hjoined, hext, hleft, hright, hlast,
    hlastext, ?_, hstatus, hcodes⟩
  · simpa only [hmade2, List.append_assoc, List.singleton_append] using hmade
  · exact hlastext.equipmentCodes.subset (Store.get?_equipmentCode_eq_some hm).2

/-- another pump of the brand and technology of the first one -/
def pumpCandidate (equipmentCode : String) : Candidate := ⟨"PUMP", "ACME", equipmentCode, "B1", "T1", "acme", "pump"⟩

def pumpPlant : World := { plant with mappings := [fanMapping, pumpMapping] }

/-- two pumps join the mapping between reading and writing, and one of them is provisioned once more -/
def rejoin : StatusRace :=
  (StatusRace.start "E1" .enabled [pumpCandidate "E2", pumpCandidate "E3", pumpCandidate "E2"] pumpPlant).run World.answer
    [.left, .right, .right, .left, .right, .left]

/-- the mapping is enabled, and covers the code provisioned once more but not the other -/
theorem status_race_rejoin :
    (pumpPlant.mappings.map (·.id)).Nodup ∧ pumpPlant.mappings.Covers "E1" ∧ pumpPlant.faults.StoresNeverFail ∧
      rejoin.Over ∧ (∃ last ∈ rejoin.state.mappings, last.status = .enabled ∧ "E1" ∈ last.equipmentCodes) ∧
      rejoin.state.mappings.Covers "E2" ∧ ¬ rejoin.state.mappings.Covers "E3" := by
  have hids : (pumpPlant.mappings.map (·.id)).Nodup := by decide +kernel
  have hcode : pumpPlant.mappings.Covers "E1" := by decide +kernel
  have hfaults : pumpPlant.faults.StoresNeverFail := fun _ _ => rfl
  have hover : rejoin.Over := by decide +kernel
  obtain ⟨m, joined, last, i, rd, wr, before, between, after, outcomes, -, -, -, -, -, -, hlast, -, hcodes, hstatus, -⟩ :=
    status_race pumpPlant "E1" .enabled [pumpCandidate "E2", pumpCandidate "E3", pumpCandidate "E2"]
      [.left, .right, .right, .left, .right, .left] hids hcode hfaults hover
  exact ⟨hids, hcode, hfaults, hover, ⟨last, List.mem_of_getElem? hlast.found, hstatus, hcodes⟩, by decide +kernel,
    by decide +kernel⟩

/-- the pump's mapping is enabled; a second pump joins it between reading and writing -/
def lateJoin : StatusRace :=
  (StatusRace.start "E1" .enabled [pumpCandidate "E2"] pumpPlant).run World.answer [.left, .right, .left, .left]

/-- the code that joins the mapping between the two calls is reported, and lost -/
theorem joined_code_lost :
    (pumpPlant.mappings.map (·.id)).Nodup ∧ pumpPlant.mappings.Covers "E1" ∧ pumpPlant.faults.StoresNeverFail ∧
      lateJoin.Over ∧
      lateJoin.right = .done [⟨{ pumpMapping with equipmentCodes := ["E1", "E2"] }, false⟩] ∧
      Reported [⟨{ pumpMapping with equipmentCodes := ["E1", "E2"] }, false⟩] "E2" ∧
      ¬ lateJoin.state.mappings.Covers "E2" := by
  refine ⟨by decide +kernel, by decide +kernel, fun _ _ => rfl, by decide +kernel, ?_, by decide +kernel, by decide +kernel⟩
  rfl

end Telemetry.Storage
