import Telemetry.Proofs.Payload.RowCounts
import Telemetry.Proofs.Service.Plan
/-
Writing for several equipments: everything is settled before the first point is stored.

The write is three passes over the groups. `Mapped`, `Routed` and `Stored` say what each pass comes to, step by step in the
states that the steps before it lead to; they speak of collaborators of any behaviour.

- `prepare_ok`, `planGroups_ok`: the first two passes succeed exactly if every step of them does;
- `storePlanned_stored`: the third stores the planned writes in order, up to the first that is refused;
- `writeBulk_outcome`: what a failure at any place of any pass leaves behind.
-/
namespace Telemetry.Service

open Program

variable (S : Surroundings)

/-! ## The first pass: equipment and points -/

/-- every group's equipment is found and its rows are mapped, one group after another -/
inductive Mapped (channels : List Channel.Resolved) :
    S.State → List Payload.ParsedGroup → List (Equipment × List Point) → S.State → Prop
  | nil (s : S.State) : Mapped channels s [] [] s
  | cons {s s1 s2 : S.State} {g : Payload.ParsedGroup} {groups : List Payload.ParsedGroup} {equipment : Equipment}
      {points : List Point} {mapped : List (Equipment × List Point)}
      (hequipment : (equipmentFor g.equipmentId).perform S.answer s = (.ok equipment, s1))
      (hpoints : Point.ofRows channels g.rows = .ok points) (hrest : Mapped channels s1 groups mapped s2) :
      Mapped channels s (g :: groups) ((equipment, points) :: mapped) s2

/-- the payload is parsed, its channels are resolved, and every group is mapped -/
def Prepared (payload : Payload.Bulk) (s : S.State) (mapped : List (Equipment × List Point)) (s' : S.State) : Prop :=
  ∃ parsed channels s1, payload.parse = .ok parsed ∧
    (Channel.resolve parsed.channels).perform S.answer s = (.ok channels, s1) ∧
    Mapped S channels s1 parsed.groups mapped s'

/-- the first pass -/
def prepare (payload : Payload.Bulk) : Action (List (Equipment × List Point)) := do
  let parsed ← Program.mapError .ofParser (.ofExcept payload.parse)
  let channels ← Channel.resolve parsed.channels
  mapGroups channels parsed.groups

theorem writeBulk_eq (service : Service) (payload : Payload.Bulk) :
    service.writeBulk payload = (do
      let mapped ← prepare payload
      let planned ← service.planGroups mapped
      storePlanned planned) := by
  simp only [writeBulk, prepare, LawfulMonad.bind_assoc]

theorem prepare_quiet (payload : Payload.Bulk) : (prepare payload).Only Call.Quiet := by
  refine only_bind (only_mapError (only_ofExcept _)) fun parsed => ?_
  exact only_bind (Channel.resolve_quiet _) fun channels => mapGroups_quiet channels parsed.groups

variable {S}

theorem mapGroups_ok {channels : List Channel.Resolved} {groups : List Payload.ParsedGroup}
    {mapped : List (Equipment × List Point)} {s s' : S.State} :
    (mapGroups channels groups).perform S.answer s = (.ok mapped, s') ↔ Mapped S channels s groups mapped s' := by
  induction groups generalizing s mapped with
  | nil =>
    constructor
    · intro h; cases h; exact .nil _
    · intro h; cases h; rfl
  | cons g groups ih =>
    constructor
    · intro h
      obtain ⟨equipment, s1, hequipment, hrest⟩ := perform_bind_ok.1 h
      obtain ⟨points, s2, hrows, hrest⟩ := perform_bind_ok.1 hrest
      obtain ⟨rest, s3, hmapped, hdone⟩ := perform_bind_ok.1 hrest
      cases hdone
      obtain ⟨hpoints, rfl⟩ := perform_ofExcept_ok.1 hrows
      exact .cons hequipment hpoints (ih.1 hmapped)
    · intro h
      cases h with
      | cons hequipment hpoints hrest =>
        refine perform_bind_ok.2 ⟨_, _, hequipment, perform_bind_ok.2 ⟨_, _, perform_ofExcept_ok.2 ⟨hpoints, rfl⟩, ?_⟩⟩
        exact perform_bind_ok.2 ⟨_, _, ih.2 hrest, rfl⟩

/-- the first pass succeeds exactly if all of its steps do -/
theorem prepare_ok {payload : Payload.Bulk} {mapped : List (Equipment × List Point)} {s s' : S.State} :
    (prepare payload).perform S.answer s = (.ok mapped, s') ↔ Prepared S payload s mapped s' := by
  constructor
  · intro h
    obtain ⟨parsed, s1, hfirst, hrest⟩ := perform_bind_ok.1 h
    obtain ⟨channels, s2, hchannels, hmapped⟩ := perform_bind_ok.1 hrest
    obtain ⟨hparse, rfl⟩ := perform_ofExcept_ok.1 (perform_mapError_ok.1 hfirst)
    exact ⟨parsed, channels, s2, hparse, hchannels, mapGroups_ok.1 hmapped⟩
  · rintro ⟨parsed, channels, s1, hparse, hchannels, hmapped⟩
    refine perform_bind_ok.2 ⟨_, _, perform_mapError_ok.2 (perform_ofExcept_ok.2 ⟨hparse, rfl⟩), ?_⟩
    exact perform_bind_ok.2 ⟨_, _, hchannels, mapGroups_ok.2 hmapped⟩

/-! ## The second pass: paths -/

variable (S)

/-- every group with points gets a path, one after another -/
inductive Routed (service : Service) :
    S.State → List (Equipment × List Point) → List Planned → S.State → Prop
  | nil (s : S.State) : Routed service s [] [] s
  | empty {s s' : S.State} {equipment : Equipment} {groups : List (Equipment × List Point)} {planned : List Planned}
      (hrest : Routed service s groups planned s') :
      Routed service s ((equipment, []) :: groups) (⟨equipment.wkeid, none, []⟩ :: planned) s'
  | path {s s1 s2 : S.State} {equipment : Equipment} {points : List Point} {path : Storage.Path}
      {groups : List (Equipment × List Point)} {planned : List Planned} (hpoints : points ≠ [])
      (hpath : (Storage.routeWrite service.supportContact equipment).perform S.answer s = (.ok path, s1))
      (hrest : Routed service s1 groups planned s2) :
      Routed service s ((equipment, points) :: groups) (⟨equipment.wkeid, some path, points⟩ :: planned) s2

variable {S}

/-- the second pass succeeds exactly if every path that is asked for is given -/
theorem planGroups_ok {service : Service} {groups : List (Equipment × List Point)} {planned : List Planned}
    {s s' : S.State} :
    (service.planGroups groups).perform S.answer s = (.ok planned, s') ↔ Routed S service s groups planned s' := by
  induction groups generalizing s planned with
  | nil =>
    constructor
    · intro h; cases h; exact .nil _
    · intro h; cases h; rfl
  | cons group groups ih =>
    obtain ⟨equipment, points⟩ := group
    rw [planGroups_cons]
    constructor
    · intro h
      obtain ⟨path?, s1, hsettle, hrest⟩ := perform_bind_ok.1 h
      obtain ⟨rest, s2, hplan, hdone⟩ := perform_bind_ok.1 hrest
      cases hdone
      unfold settle at hsettle
      split_ifs at hsettle with hempty
      · cases hsettle
        obtain rfl := List.isEmpty_iff.1 hempty
        exact .empty (ih.1 hplan)
      · obtain ⟨path, s3, hpath, hpure⟩ := perform_bind_ok.1 hsettle
        cases hpure
        exact .path (fun h => hempty (List.isEmpty_iff.2 h)) hpath (ih.1 hplan)
    · intro h
      cases h with
      | empty hrest =>
        exact perform_bind_ok.2 ⟨none, s, rfl, perform_bind_ok.2 ⟨_, _, ih.2 hrest, rfl⟩⟩
      | path hpoints hpath hrest =>
        rename_i s1 path planned
        have hsettle : (service.settle (equipment, points)).perform S.answer s = (.ok (some path), s1) := by
          rw [settle, if_neg fun h => hpoints (List.isEmpty_iff.1 h)]
          exact perform_bind_ok.2 ⟨_, _, hpath, rfl⟩
        exact perform_bind_ok.2 ⟨_, _, hsettle, perform_bind_ok.2 ⟨_, _, ih.2 hrest, rfl⟩⟩

/-! ## The third pass: writes -/

def Planned.target (p : Planned) : Option Write :=
  p.path.map fun path => ⟨path, p.wkeid, p.points⟩

/-- the writes of plans, in order -/
def targets (ps : List Planned) : List Write :=
  ps.filterMap Planned.target

/-- the answer about a plan that is carried out -/
def Planned.summary (p : Planned) : WriteSummary :=
  ⟨p.wkeid, p.path, if p.path.isSome then p.points.length else 0⟩

variable (S)

/-- all that storing plans may come to: a result and the state left behind -/
inductive Stored (ps : List Planned) (s : S.State) : Except ServiceError (List WriteSummary) → S.State → Prop
  /-- every write is accepted -/
  | all (s' : S.State) (hattempted : S.attempted (storePlanned ps) s = targets ps)
      (hwrites : S.writes s' = S.writes s ++ targets ps) : Stored ps s (.ok (ps.map Planned.summary)) s'
  /-- the writes before the one at `k` are accepted, and this one is refused -/
  | upTo (k : Nat) (w : Write) (e : HistorianError) (s1 s' : S.State) (hk : (targets ps)[k]? = some w)
      (hrefused : S.answer s1 (.historianWrite w.path w.wkeid w.points) = (.error e, s'))
      (hattempted : S.attempted (storePlanned ps) s = (targets ps).take (k + 1))
      (hwrites : S.writes s' = S.writes s ++ (targets ps).take k) : Stored ps s (.error (.historian e)) s'

theorem targets_cons (p : Planned) (ps : List Planned) : targets (p :: ps) = p.target.toList ++ targets ps := by
  unfold targets
  cases h : p.target <;> simp [h]

/-- a plan carried out: its write, if it has one, is asked for and accepted -/
structure CarriedOut (p : Planned) (s s' : S.State) : Prop where
  perform : (carryOut p).perform S.answer s = (.ok p.summary, s')
  attempted : S.attempted (carryOut p) s = p.target.toList
  writes : S.writes s' = S.writes s ++ p.target.toList

/-- a plan that fails: its write is asked for and refused -/
structure Refused (p : Planned) (s : S.State) (w : Write) (e : HistorianError) (s' : S.State) : Prop where
  target : p.target = some w
  answer : S.answer s (.historianWrite w.path w.wkeid w.points) = (.error e, s')
  perform : (carryOut p).perform S.answer s = (.error (.historian e), s')
  attempted : S.attempted (carryOut p) s = [w]
  writes : S.writes s' = S.writes s

/-- a write ends as the historian answers, and is asked for in any case -/
theorem perform_write {path : Storage.Path} {wkeid : String} {points : List Point} {s s' : S.State}
    {r : Except HistorianError Unit} (h : S.answer s (.historianWrite path wkeid points) = (r, s')) :
    (Historian.write path wkeid points).perform S.answer s = (r.mapError .historian, s') ∧
      S.attempted (Historian.write path wkeid points) s = [⟨path, wkeid, points⟩] := by
  unfold Historian.write Surroundings.attempted
  rw [Program.perform, Program.moments, h]
  cases r <;> exact ⟨rfl, rfl⟩

theorem carryOut_cases (p : Planned) (s : S.State) :
    (∃ s', CarriedOut S p s s') ∨ ∃ w e s', Refused S p s w e s' := by
  obtain ⟨wkeid, path?, points⟩ := p
  cases path? with
  | none => exact Or.inl ⟨s, rfl, rfl, (List.append_nil _).symm⟩
  | some path =>
    have hpath : carryOut ⟨wkeid, some path, points⟩ =
        Historian.write path wkeid points >>= fun _ => pure ⟨wkeid, some path, points.length⟩ := rfl
    rcases hanswer : S.answer s (.historianWrite path wkeid points) with ⟨e | u, s'⟩
    · obtain ⟨hwrite, hattempted⟩ := perform_write S hanswer
      refine Or.inr ⟨_, e, s', rfl, hanswer, ?_, ?_, S.writes_refused hanswer⟩
      · rw [hpath, perform_bind_of_error hwrite]
      · rw [hpath, S.attempted_bind_pure, hattempted]
    · obtain ⟨hwrite, hattempted⟩ := perform_write S hanswer
      refine Or.inl ⟨s', ?_, ?_, S.writes_accepted hanswer⟩
      · rw [hpath, perform_bind_of_ok hwrite]
        rfl
      · rw [hpath, S.attempted_bind_pure, hattempted]
        rfl

variable {S}

/-- what the other plans come to, once the first is carried out -/
theorem Stored.cons {p : Planned} {ps : List Planned} {s s1 s' : S.State}
    {r : Except ServiceError (List WriteSummary)} (hp : CarriedOut S p s s1) (h : Stored S ps s1 r s') :
    Stored S (p :: ps) s (r.map (p.summary :: ·)) s' := by
  have hattempted : S.attempted (storePlanned (p :: ps)) s = p.target.toList ++ S.attempted (storePlanned ps) s1 := by
    rw [storePlanned_cons, S.attempted_bind_ok hp.perform, hp.attempted, S.attempted_bind_pure]
  cases h with
  | all _ hrest hwrites =>
    refine .all s' ?_ ?_
    · rw [hattempted, hrest, targets_cons]
    · rw [hwrites, hp.writes, List.append_assoc, targets_cons]
  | upTo k w e s2 _ hk hrefused hrest hwrites =>
    -- the write of the first plan, if it has one, moves the place of the refused one
    refine .upTo (p.target.toList.length + k) w e s2 s' ?_ hrefused ?_ ?_
    · rw [targets_cons, List.getElem?_append_right (Nat.le_add_right _ k), Nat.add_sub_cancel_left, hk]
    · rw [hattempted, hrest, targets_cons, Nat.add_assoc, List.take_length_add_append]
    · rw [hwrites, hp.writes, List.append_assoc, targets_cons, List.take_length_add_append]

/-- nothing comes after a plan that fails -/
theorem Stored.refused {p : Planned} (ps : List Planned) {s s' : S.State} {w : Write} {e : HistorianError}
    (h : Refused S p s w e s') : Stored S (p :: ps) s (.error (.historian e)) s' := by
  have htargets : targets (p :: ps) = w :: targets ps := by
    rw [targets_cons, h.target]
    rfl
  refine .upTo 0 w e s s' ?_ h.answer ?_ ?_
  · rw [htargets]
    rfl
  · rw [storePlanned_cons, S.attempted_bind_error h.perform, h.attempted, htargets]
    rfl
  · rw [h.writes, List.take_zero, List.append_nil]

/-- plans are stored in order, up to the first that fails -/
theorem storePlanned_stored (ps : List Planned) (s : S.State) :
    Stored S ps s ((storePlanned ps).perform S.answer s).1 ((storePlanned ps).perform S.answer s).2 := by
  induction ps generalizing s with
  | nil => exact .all s rfl (List.append_nil _).symm
  | cons p ps ih =>
    rw [storePlanned_cons]
    rcases carryOut_cases S p s with ⟨s1, hp⟩ | ⟨w, e, s1, hp⟩
    · rw [perform_bind_of_ok hp.perform, perform_bind_pure]
      exact (ih s1).cons hp
    · rw [perform_bind_of_error hp.perform]
      exact .refused ps hp

/-! ## Groups and their plans -/

variable (S)

/-- an equipment with points for a group: the record under the group's id, and a point for each row -/
structure MappedFrom (g : Payload.Group) (m : Equipment × List Point) : Prop where
  equipment : ∃ s s', (equipmentFor g.equipmentId).perform S.answer s = (.ok m.1, s')
  points : m.2.length = g.rows.length

/-- a plan for a group: under the id in its equipment's record, with a point for each row, and with a path if it has any -/
structure PlanFor (g : Payload.Group) (p : Planned) : Prop where
  wkeid : ∃ e s s', (equipmentFor g.equipmentId).perform S.answer s = (.ok e, s') ∧ p.wkeid = e.wkeid
  points : p.points.length = g.rows.length
  path : p.path = none ↔ g.rows = []

variable {S}

theorem Mapped.from_groups {channels : List Channel.Resolved} {groups : List Payload.Group}
    {parsed : List Payload.ParsedGroup} {mapped : List (Equipment × List Point)} {s s' : S.State}
    (h : Mapped S channels s parsed mapped s') (hparsed : List.Forall₂ Payload.Group.Checked groups parsed) :
    List.Forall₂ (MappedFrom S) groups mapped := by
  induction h generalizing groups with
  | nil s =>
    cases hparsed
    exact .nil
  | cons hequipment hpoints hrest ih =>
    cases hparsed with
    | cons hchecked hparsed =>
      rw [hchecked.equipmentId] at hequipment
      exact .cons ⟨⟨_, _, hequipment⟩, (Point.ofRows_length hpoints).trans hchecked.rows⟩ (ih hparsed)

theorem Routed.plans {service : Service} {groups : List Payload.Group} {mapped : List (Equipment × List Point)}
    {planned : List Planned} {s s' : S.State} (h : Routed S service s mapped planned s')
    (hmapped : List.Forall₂ (MappedFrom S) groups mapped) : List.Forall₂ (PlanFor S) groups planned := by
  induction h generalizing groups with
  | nil s =>
    cases hmapped
    exact .nil
  | empty hrest ih =>
    cases hmapped with
    | cons hfrom hmapped =>
      obtain ⟨⟨s1, s2, hequipment⟩, hpoints⟩ := hfrom
      have hrows := List.length_eq_zero_iff.1 hpoints.symm
      exact .cons ⟨⟨_, s1, s2, hequipment, rfl⟩, hpoints, by simp [hrows]⟩ (ih hmapped)
  | path hne hpath hrest ih =>
    cases hmapped with
    | cons hfrom hmapped =>
      obtain ⟨⟨s1, s2, hequipment⟩, hpoints⟩ := hfrom
      refine .cons ⟨⟨_, s1, s2, hequipment, rfl⟩, hpoints, ?_⟩ (ih hmapped)
      refine ⟨fun h => ?_, fun h => ?_⟩
      · cases h
      · rw [h] at hpoints
        exact absurd (List.length_eq_zero_iff.1 hpoints) hne

/-- a summary counts the rows of its group -/
theorem PlanFor.rowsWritten {g : Payload.Group} {p : Planned} (h : PlanFor S g p) :
    p.summary.rowsWritten = g.rows.length := by
  unfold Planned.summary
  cases hpath : p.path with
  | none =>
    rw [h.path.1 hpath]
    rfl
  | some path => exact h.points

theorem rowsWritten_of_plans {groups : List Payload.Group} {planned : List Planned}
    (h : List.Forall₂ (PlanFor S) groups planned) :
    planned.map (·.summary.rowsWritten) = groups.map (·.rows.length) :=
  map_eq_of_forall₂ h fun _ _ hp => hp.rowsWritten

/-! ## The whole write -/

section Whole

variable {service : Service} {payload : Payload.Bulk} {s s1 s2 : S.State} {mapped : List (Equipment × List Point)}
  {planned : List Planned}

/-- if the first pass fails, nothing has changed -/
theorem writeBulk_of_not_prepared (h : ∀ mapped s1, ¬ Prepared S payload s mapped s1) :
    (∃ e, ((service.writeBulk payload).perform S.answer s).1 = .error e) ∧
      S.attempted (service.writeBulk payload) s = [] ∧
      S.mappings ((service.writeBulk payload).perform S.answer s).2 = S.mappings s ∧
      S.writes ((service.writeBulk payload).perform S.answer s).2 = S.writes s := by
  have hquiet := prepare_quiet payload
  rcases hprepare : (prepare payload).perform S.answer s with ⟨e | mapped, s1⟩
  · have hmappings := S.mappings_perform (only_mono (fun _ hc => hc.keeps .mappings) hquiet) s
    have hwrites := S.writes_perform (only_mono (fun _ hc => hc.keeps .writes) hquiet) s
    have hattempted := S.attempted_eq_nil (only_mono (fun _ hc => hc.keeps .writes) hquiet) s
    rw [hprepare] at hmappings hwrites
    rw [writeBulk_eq, perform_bind_of_error hprepare, S.attempted_bind_error hprepare]
    exact ⟨⟨e, rfl⟩, hattempted, hmappings, hwrites⟩
  · exact absurd (prepare_ok.1 hprepare) (h mapped s1)

/-- the first pass writes nothing -/
theorem Prepared.writes (h : Prepared S payload s mapped s1) :
    S.attempted (prepare payload) s = [] ∧ S.writes s1 = S.writes s := by
  have hquiet := only_mono (fun _ hc => Call.Quiet.keeps hc .writes) (prepare_quiet payload)
  have hwrites := S.writes_perform hquiet s
  rw [prepare_ok.2 h] at hwrites
  exact ⟨S.attempted_eq_nil hquiet s, hwrites⟩

/-- if the second pass fails, nothing is written -/
theorem writeBulk_of_not_routed (hprepared : Prepared S payload s mapped s1)
    (h : ∀ planned s2, ¬ Routed S service s1 mapped planned s2) :
    (∃ e, ((service.writeBulk payload).perform S.answer s).1 = .error e) ∧
      S.attempted (service.writeBulk payload) s = [] ∧
      S.writes ((service.writeBulk payload).perform S.answer s).2 = S.writes s := by
  have honly := only_mono (fun _ hc => Storage.Provisions.keeps_writes hc) (service.planGroups_only mapped)
  obtain ⟨hattempted, hwrites⟩ := hprepared.writes
  rcases hplan : (service.planGroups mapped).perform S.answer s1 with ⟨e | planned, s2⟩
  · have hwrites' := S.writes_perform honly s1
    rw [hplan] at hwrites'
    rw [writeBulk_eq, perform_bind_of_ok (prepare_ok.2 hprepared), perform_bind_of_error hplan,
      S.attempted_bind_ok (prepare_ok.2 hprepared), S.attempted_bind_error hplan, hattempted, S.attempted_eq_nil honly]
    exact ⟨⟨e, rfl⟩, rfl, hwrites'.trans hwrites⟩
  · exact absurd (planGroups_ok.1 hplan) (h planned s2)

/-- if both passes succeed, the write is the third pass -/
theorem writeBulk_of_routed (hprepared : Prepared S payload s mapped s1) (hrouted : Routed S service s1 mapped planned s2) :
    (service.writeBulk payload).perform S.answer s = (storePlanned planned).perform S.answer s2 ∧
      S.attempted (service.writeBulk payload) s = S.attempted (storePlanned planned) s2 ∧
      S.writes s2 = S.writes s := by
  have honly := only_mono (fun _ hc => Storage.Provisions.keeps_writes hc) (service.planGroups_only mapped)
  obtain ⟨hattempted, hwrites⟩ := hprepared.writes
  have hwrites' := S.writes_perform honly s1
  rw [planGroups_ok.2 hrouted] at hwrites'
  refine ⟨?_, ?_, hwrites'.trans hwrites⟩
  · rw [writeBulk_eq, perform_bind_of_ok (prepare_ok.2 hprepared), perform_bind_of_ok (planGroups_ok.2 hrouted)]
  · rw [writeBulk_eq, S.attempted_bind_ok (prepare_ok.2 hprepared), S.attempted_bind_ok (planGroups_ok.2 hrouted),
      hattempted, S.attempted_eq_nil honly]
    rfl

theorem Prepared.groups (h : Prepared S payload s mapped s1) : List.Forall₂ (MappedFrom S) payload.groups mapped := by
  obtain ⟨parsed, channels, s2, hparse, -, hmapped⟩ := h
  exact hmapped.from_groups (Payload.Bulk.parse_ok hparse)

end Whole

variable (S)

/-- **A write for several equipments settles everything first.** In surroundings of any behaviour, one of three things
happens. If the payload, its channels, an equipment or the rows of a group are refused, the write fails, and neither the
mappings nor the writes have changed. If all these are settled but a path is refused, the write fails, and nothing has been
written. Otherwise the writes asked for are those of the groups with rows, in order: either all are accepted, and the answer
sums up every group with the number of its rows, or the one at `k` is refused, and exactly those before it have been
accepted. -/
theorem writeBulk_outcome (service : Service) (payload : Payload.Bulk) (s : S.State) :
    let r := ((service.writeBulk payload).perform S.answer s).1
    let s' := ((service.writeBulk payload).perform S.answer s).2
    let attempted := S.attempted (service.writeBulk payload) s
    ((∀ mapped s1, ¬ Prepared S payload s mapped s1) →
      (∃ e, r = .error e) ∧ attempted = [] ∧ S.mappings s' = S.mappings s ∧ S.writes s' = S.writes s) ∧
    (∀ mapped s1, Prepared S payload s mapped s1 → (∀ planned s2, ¬ Routed S service s1 mapped planned s2) →
      (∃ e, r = .error e) ∧ attempted = [] ∧ S.writes s' = S.writes s) ∧
    (∀ mapped s1 planned s2, Prepared S payload s mapped s1 → Routed S service s1 mapped planned s2 →
      List.Forall₂ (PlanFor S) payload.groups planned ∧
      ((r = .ok (planned.map Planned.summary) ∧
          planned.map (·.summary.rowsWritten) = payload.groups.map (·.rows.length) ∧
          attempted = targets planned ∧ S.writes s' = S.writes s ++ targets planned) ∨
        ∃ k w e s3, (targets planned)[k]? = some w ∧
          S.answer s3 (.historianWrite w.path w.wkeid w.points) = (.error e, s') ∧ r = .error (.historian e) ∧
          attempted = (targets planned).take (k + 1) ∧ S.writes s' = S.writes s ++ (targets planned).take k)) := by
  refine ⟨writeBulk_of_not_prepared, fun mapped s1 hprepared => writeBulk_of_not_routed hprepared, ?_⟩
  intro mapped s1 planned s2 hprepared hrouted
  have hplans := hrouted.plans hprepared.groups
  obtain ⟨hperform, hattempted, hwrites⟩ := writeBulk_of_routed hprepared hrouted
  refine ⟨hplans, ?_⟩
  have hstored := storePlanned_stored planned s2
  rw [← hperform] at hstored
  rw [hattempted, ← hwrites]
  generalize ((service.writeBulk payload).perform S.answer s).1 = r at hstored
  generalize ((service.writeBulk payload).perform S.answer s).2 = s' at hstored
  cases hstored with
  | all _ hall hlog => exact Or.inl ⟨rfl, rowsWritten_of_plans hplans, hall, hlog⟩
  | upTo k w e s3 _ hk hrefused hsome hlog => exact Or.inr ⟨k, w, e, s3, hk, hrefused, rfl, hsome, hlog⟩

/-- the loads are written once both equipments have a path, and not before -/
theorem writeBulk_outcome_plant :
    let S := World.surroundings.toSurroundings
    let service : Service := ⟨"ops", 24⟩
    (∃ s1, Prepared S loads plant mappedLoads s1 ∧ (∀ planned s2, ¬ Routed S service s1 mappedLoads planned s2) ∧
      S.attempted (service.writeBulk loads) plant = []) ∧
    ∃ s1 s2, Prepared S loads enabledPlant mappedLoads s1 ∧ Routed S service s1 mappedLoads plannedLoads s2 ∧
      List.Forall₂ (PlanFor S) loads.groups plannedLoads := by
  intro S service
  refine ⟨?_, ?_⟩
  · have hprepare : ((prepare loads).perform S.answer plant).1 = .ok mappedLoads := by decide +kernel
    have hroute : ((service.planGroups mappedLoads).perform S.answer ((prepare loads).perform S.answer plant).2).1.toOption
        = none := by decide +kernel
    have hprepared := prepare_ok.1 (perform_of_fst hprepare)
    have hrefused : ∀ planned s2, ¬ Routed S service ((prepare loads).perform S.answer plant).2 mappedLoads planned s2 := by
      intro planned s2 hrouted
      rw [planGroups_ok.2 hrouted] at hroute
      cases hroute
    obtain ⟨-, hattempted, -⟩ := (writeBulk_outcome S service loads plant).2.1 _ _ hprepared hrefused
    exact ⟨_, hprepared, hrefused, hattempted⟩
  · have hprepare : ((prepare loads).perform S.answer enabledPlant).1 = .ok mappedLoads := by decide +kernel
    have hroute : ((service.planGroups mappedLoads).perform S.answer
        ((prepare loads).perform S.answer enabledPlant).2).1 = .ok plannedLoads := by decide +kernel
    have hprepared := prepare_ok.1 (perform_of_fst hprepare)
    have hrouted := planGroups_ok.1 (perform_of_fst hroute)
    obtain ⟨hplans, -⟩ := (writeBulk_outcome S service loads enabledPlant).2.2 _ _ _ _ hprepared hrouted
    exact ⟨_, _, hprepared, hrouted, hplans⟩

end Telemetry.Service
