import Telemetry.CommandLine.Operator
import Telemetry.Proofs.Alike
import Telemetry.Proofs.Point.Acceptance
import Telemetry.Proofs.Time.Printed
import Telemetry.Proofs.Time.Ticks
/-
The times of a report, read again.

A report gives of each group the least and the greatest of the times of its points. A point has the time that a cell of its
row tells, so it is an instant that has been read, and what is printed of it is read as it.

- `chosen_foremost`: the least and the greatest of some instants;
- `reportsOn_ok`: the points that are reported on;
- `reported_times_read`: instants are read as they are printed, and so are the times of a report.
-/
namespace Telemetry

open Time

namespace Payload

variable {content : String} {w : World}

/-! ## Least and greatest instants -/

/-- one of some instants that goes before all of them -/
structure Foremost (R : Instant → Instant → Prop) (t : Instant) (times : List Instant) : Prop where
  mem : t ∈ times
  before : ∀ s ∈ times, R t s

/-- choosing one of two again and again chooses one of all -/
theorem chosen_foremost {R : Instant → Instant → Prop} {choose : Instant → Instant → Instant}
    (hrefl : ∀ a, R a a) (htrans : ∀ a b c, R a b → R b c → R a c)
    (hchoose : ∀ a b, (choose a b = a ∨ choose a b = b) ∧ R (choose a b) a ∧ R (choose a b) b)
    {times : List Instant} {t : Instant} (h : chosen choose times = some t) : Foremost R t times := by
  cases times with
  | nil => cases h
  | cons s times =>
    cases h
    -- what is chosen of the first two takes the place of both
    induction times generalizing s with
    | nil => exact ⟨List.mem_cons_self, by simpa using hrefl s⟩
    | cons a times ih =>
      obtain ⟨hone, hs, ha⟩ := hchoose s a
      obtain ⟨hmem, hbefore⟩ := ih (choose s a)
      have hfirst := hbefore _ List.mem_cons_self
      refine ⟨?_, fun x hx => ?_⟩
      · rw [List.foldl_cons]
        rcases List.mem_cons.1 hmem with heq | hrest
        · rcases hone with hkept | hreplaced
          · rw [heq, hkept]
            exact List.mem_cons_self
          · rw [heq, hreplaced]
            exact List.mem_cons_of_mem _ List.mem_cons_self
        · exact List.mem_cons_of_mem _ (List.mem_cons_of_mem _ hrest)
      · rcases List.mem_cons.1 hx with rfl | hx
        · exact htrans _ _ _ hfirst hs
        · rcases List.mem_cons.1 hx with rfl | hx
          · exact htrans _ _ _ hfirst ha
          · exact hbefore x (List.mem_cons_of_mem _ hx)

theorem chosen_eq_none_iff {choose : Instant → Instant → Instant} {times : List Instant} :
    chosen choose times = none ↔ times = [] := by
  cases times <;> simp [chosen]

theorem earlier_foremost {times : List Instant} {t : Instant} (h : chosen earlier times = some t) :
    Foremost (· ≤ ·) t times := by
  refine chosen_foremost Instant.le_refl (fun _ _ _ => Instant.le_trans) (fun a b => ?_) h
  unfold earlier
  split
  · rename_i hlt
    exact ⟨Or.inr rfl, Instant.le_of_lt hlt, Instant.le_refl b⟩
  · rename_i hnot
    exact ⟨Or.inl rfl, Instant.le_refl a, Instant.not_lt.1 hnot⟩

theorem later_foremost {times : List Instant} {t : Instant} (h : chosen later times = some t) :
    Foremost (· ≥ ·) t times := by
  refine chosen_foremost (R := (· ≥ ·)) Instant.le_refl (fun _ _ _ hab hbc => Instant.le_trans hbc hab) (fun a b => ?_) h
  unfold later
  split
  · rename_i hlt
    exact ⟨Or.inl rfl, Instant.le_refl a, Instant.le_of_lt hlt⟩
  · rename_i hnot
    exact ⟨Or.inr rfl, Instant.not_lt.1 hnot, Instant.le_refl b⟩

/-! ## Points and their times -/

theorem exists_instantOf {cell : Point.Cell} {t : Instant} (h : cell.instant? = some t) : ∃ s, instantOf s = .ok t := by
  obtain ⟨c, v⟩ := cell
  cases v with
  | string s =>
    refine ⟨s, ?_⟩
    simp only [Point.Cell.instant?] at h
    cases hread : instantOf s with
    | ok u =>
      have htold : c.isTime = true ∧ u = t := by simpa [hread, Except.toOption] using h
      rw [htold.2]
    | error e => simp [hread, Except.toOption] at h
  | _ => cases h

/-- the time of a point is an instant that has been read -/
theorem regular_of_ofRows {channels : List Channel.Resolved} {rows : Rows} {points : List Point}
    (h : Point.ofRows channels rows = .ok points) : ∀ p ∈ points, p.time.Regular := by
  intro p hp
  obtain ⟨cells, -, hmade⟩ := exists_of_forall₂ (Point.ofRows_made h) hp
  have htold : p.time ∈ cells.filterMap Point.Cell.instant? := List.mem_of_getLast? hmade.time.symm
  obtain ⟨cell, -, hcell⟩ := List.mem_filterMap.1 htold
  obtain ⟨s, hs⟩ := exists_instantOf hcell
  exact regular_of_instantOf hs

/-! ## Reports -/

/-- a report gives the rows of points, and as texts the least and the greatest of their times -/
structure GroupReport.TimesTold (points : List Point) (r : GroupReport) : Prop where
  rows : r.rows = points.length
  no_first : r.first = none ↔ points = []
  no_last : r.last = none ↔ points = []
  first : (∀ p ∈ points, p.time.InFourDigits) → ∀ text ∈ r.first.map Instant.offsetText,
    ∃ t, instantOf text = .ok t ∧ Foremost (· ≤ ·) t (points.map (·.time))
  last : (∀ p ∈ points, p.time.InFourDigits) → ∀ text ∈ r.last.map Instant.offsetText,
    ∃ t, instantOf text = .ok t ∧ Foremost (· ≥ ·) t (points.map (·.time))

theorem GroupReport.timesTold_ofPoints {points : List Point} (hregular : ∀ p ∈ points, p.time.Regular)
    (equipmentId : Option String) : (ofPoints equipmentId points).TimesTold points := by
  have hread {R : Instant → Instant → Prop} {t : Instant} (ht : Foremost R t (points.map (·.time)))
      (hyears : ∀ p ∈ points, p.time.InFourDigits) : instantOf t.offsetText = .ok t := by
    obtain ⟨p, hp, rfl⟩ := List.mem_map.1 ht.mem
    exact (hregular p hp).instantOf_offsetText (hyears p hp)
  refine ⟨rfl, ?_, ?_, fun hyears text htext => ?_, fun hyears text htext => ?_⟩
  · exact chosen_eq_none_iff.trans List.map_eq_nil_iff
  · exact chosen_eq_none_iff.trans List.map_eq_nil_iff
  · obtain ⟨t, hfirst, rfl⟩ := Option.map_eq_some_iff.1 htext
    have ht := earlier_foremost hfirst
    exact ⟨t, hread ht hyears, ht⟩
  · obtain ⟨t, hlast, rfl⟩ := Option.map_eq_some_iff.1 htext
    have ht := later_foremost hlast
    exact ⟨t, hread ht hyears, ht⟩

theorem told_ok_iff {α : Type} {r : Except ServiceError α} {a : α} : told r = .ok a ↔ r = .ok a :=
  mapError_eq_ok_iff

theorem doing_ok_iff {α : Type} {context : String} {r : Except Failure α} {a : α} : doing context r = .ok a ↔ r = .ok a :=
  mapError_eq_ok_iff

/-- a group is reported on through its points -/
theorem reportGroup_eq_ok {channels : List Channel.Resolved} {g : ParsedGroup} {r : GroupReport}
    (h : reportGroup channels g = .ok r) : ∃ points, Point.ofRows channels g.rows = .ok points ∧
      r = .ofPoints (some g.equipmentId) points := by
  obtain ⟨-, -, h⟩ := bind_eq_ok_iff.1 h
  obtain ⟨points, hpoints, hdone⟩ := bind_eq_ok_iff.1 h
  cases hdone
  exact ⟨points, told_ok_iff.1 (doing_ok_iff.1 hpoints), rfl⟩

/-- the channels that a text declares, and the rows of each group -/
def rowsIn (content : String) (bulk : Bool) : Except ParserError (List DeclaredChannel × List Rows) :=
  if bulk then (parseBulkText content).map fun p => (p.channels, p.groups.map (·.rows))
  else (parseText content).map fun p => (p.channels, [p.rows])

/-- a report on the points of some rows -/
def ReportsOn (channels : List Channel.Resolved) (rows : Rows) (r : GroupReport) : Prop :=
  ∃ points equipmentId, Point.ofRows channels rows = .ok points ∧ r = .ofPoints equipmentId points

theorem report_eq_ok {reports : List GroupReport} (h : ((report content).run w).1 = .ok reports) :
    ∃ declared groups channels, rowsIn content false = .ok (declared, groups) ∧
      ((Channel.resolve declared).run w).1 = .ok channels ∧ List.Forall₂ (ReportsOn channels) groups reports := by
  obtain ⟨parsed, w1, hread, hrest⟩ := World.run_bind_ok.1 (Program.perform_of_fst h)
  obtain ⟨points, w2, hmade, hdone⟩ := World.run_bind_ok.1 hrest
  cases hdone
  obtain ⟨hparse, rfl⟩ := Program.perform_ofExcept_ok.1 hread
  obtain ⟨channels, w3, hresolve, hrows⟩ := World.run_bind_ok.1 (Program.perform_mapError_ok.1 hmade)
  have hpoints := (Program.perform_ofExcept_ok.1 hrows).1
  have htext := mapError_eq_ok_iff.1 (doing_ok_iff.1 hparse)
  refine ⟨parsed.channels, [parsed.rows], channels, ?_, congrArg Prod.fst hresolve, ?_⟩
  · rw [rowsIn, htext]
    rfl
  · exact .cons ⟨points, none, hpoints, rfl⟩ .nil

theorem reportBulk_eq_ok {reports : List GroupReport} (h : ((reportBulk content).run w).1 = .ok reports) :
    ∃ declared groups channels, rowsIn content true = .ok (declared, groups) ∧
      ((Channel.resolve declared).run w).1 = .ok channels ∧ List.Forall₂ (ReportsOn channels) groups reports := by
  obtain ⟨parsed, w1, hread, hrest⟩ := World.run_bind_ok.1 (Program.perform_of_fst h)
  obtain ⟨channels, w2, hresolve, hgroups⟩ := World.run_bind_ok.1 hrest
  obtain ⟨hparse, rfl⟩ := Program.perform_ofExcept_ok.1 hread
  have htext := mapError_eq_ok_iff.1 (doing_ok_iff.1 hparse)
  have hreported := forall₂_of_mapM (Program.perform_ofExcept_ok.1 hgroups).1
  refine ⟨parsed.channels, parsed.groups.map (·.rows), channels, ?_,
    congrArg Prod.fst (Program.perform_mapError_ok.1 hresolve), ?_⟩
  · rw [rowsIn, htext]
    rfl
  · refine List.forall₂_map_left_iff.2 (hreported.imp fun g r hr => ?_)
    obtain ⟨points, hpoints, rfl⟩ := reportGroup_eq_ok hr
    exact ⟨points, _, hpoints, rfl⟩

/-- the report on a text is made of the points of its groups -/
theorem reportsOn_ok {bulk : Bool} {reports : List GroupReport} (h : CommandLine.reportsOn content bulk w = .ok reports) :
    ∃ declared groups channels, rowsIn content bulk = .ok (declared, groups) ∧
      ((Channel.resolve declared).run w).1 = .ok channels ∧ List.Forall₂ (ReportsOn channels) groups reports := by
  cases bulk with
  | false => exact report_eq_ok h
  | true => exact reportBulk_eq_ok h

/-- **Times are read as they are printed.** An instant within a second, or within a leap second at the end of a minute, is
read as it is printed in reports if its year has four digits. So whenever a text is reported on, as a payload for one
equipment or for several, and its channels are those that the catalog matches, there is a report for each group, which has
as many points as rows; the report has no first and no last time exactly if there are no rows, and if all times are in years
of four digits, these two are read as the least and the greatest of them. -/
theorem reported_times_read :
    (∀ t : Instant, t.Regular → t.InFourDigits → instantOf t.offsetText = .ok t) ∧
    ∀ (content : String) (bulk : Bool) (w : World) (reports : List GroupReport),
      CommandLine.reportsOn content bulk w = .ok reports →
        ∃ declared groups channels, rowsIn content bulk = .ok (declared, groups) ∧
          ((Channel.resolve declared).run w).1 = .ok channels ∧
          List.Forall₂ (fun rows r => ∃ points, Point.ofRows channels rows = .ok points ∧ points.length = rows.length ∧
            r.TimesTold points) groups reports := by
  refine ⟨fun t ht hyear => ht.instantOf_offsetText hyear, fun content bulk w reports h => ?_⟩
  obtain ⟨declared, groups, channels, hrows, hchannels, hreports⟩ := reportsOn_ok h
  refine ⟨declared, groups, channels, hrows, hchannels, hreports.imp ?_⟩
  rintro rows r ⟨points, equipmentId, hpoints, rfl⟩
  have hregular := regular_of_ofRows hpoints
  exact ⟨points, hpoints, Point.ofRows_length hpoints, GroupReport.timesTold_ofPoints hregular equipmentId⟩

def inLeapSecond : Instant := ⟨1483228799, 1500000000⟩

/-- two rows out of order: this leap second as it is written west of universal time, and the second before it -/
def leapRows : String :=
  "\x7b\"meta\":\x7b\"channels\":[\x7b\"code\":\"time\",\"uom\":\"s\",\"dimension\":\"time\"\x7d]\x7d," ++
    "\"rows\":[[\"2016-12-31T22:59:60.5-01:00\"],[\"2016-12-31T23:59:59Z\"]]\x7d"

/-- the report on these rows ends with the leap second, which is read as it is printed -/
theorem reported_times_read_leap :
    let w : World := { definitions := plant.definitions }
    (inLeapSecond.Regular ∧ inLeapSecond.InFourDigits) ∧
    (inLeapSecond.offsetText = "2016-12-31T23:59:60.500+00:00" ∧ instantOf inLeapSecond.offsetText = .ok inLeapSecond) ∧
    ∃ r points, CommandLine.reportsOn leapRows false w = .ok [r] ∧ points.length = 2 ∧ r.TimesTold points ∧
      r.last = some inLeapSecond := by
  intro w
  have hregular : inLeapSecond.Regular := Or.inr (by decide)
  have hyear : inLeapSecond.InFourDigits := by
    unfold Instant.InFourDigits
    decide
  have hrun : CommandLine.reportsOn leapRows false w =
      .ok [⟨none, 2, [], some ⟨1483228799, 0⟩, some inLeapSecond⟩] := by decide +kernel
  obtain ⟨hread, hreports⟩ := reported_times_read
  obtain ⟨declared, groups, channels, -, -, htold⟩ := hreports _ _ _ _ hrun
  obtain ⟨rows, _, ⟨points, -, -, hpoints⟩, -, rfl⟩ := List.forall₂_cons_right_iff.1 htold
  refine ⟨⟨hregular, hyear⟩, ⟨by decide +kernel, hread _ hregular hyear⟩, ?_⟩
  exact ⟨_, points, hrun, hpoints.rows.symm, hpoints, rfl⟩

end Payload

end Telemetry
