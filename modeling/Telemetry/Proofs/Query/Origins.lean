import Telemetry.Proofs.Json.Texts
import Telemetry.Proofs.Query.Intervals
import Telemetry.Proofs.Query.Plain
import Telemetry.Proofs.Time.Ticks
import Telemetry.Query.Json
import Telemetry.Time.Period
/-
Where groupings and periods come from.

Their constructors check them: a grouping that is made has an interval, a period that is made does not end before it starts. Read
from JSON they are taken as they stand. So the text of any grouping and of any period is read back, whatever its interval
and whatever the order of its ends, and an interval that is none goes into the query as it is.

- `GroupBy.made_iff`, `Period.made_iff`: what the constructors make;
- `GroupBy.read_toJson`, `Period.read_toJson`: what is read from JSON;
- `checked_when_made`: all of it, with the clause that a grouping adds to a query.
-/
namespace Telemetry

open Text

/-! ## Periods -/

namespace Time

variable {p : Period}

/-- the constructors make the periods that do not end before they start -/
theorem Period.made_iff : p.Made ↔ p.start ≤ p.stop := by
  refine ⟨Period.Made.ordered, fun h => .between p.start p.stop ?_⟩
  rw [Period.between, if_neg (Instant.not_lt.2 h)]

/-- a period is read back from JSON if its ends are, whatever their order -/
theorem Period.read_toJson {instant? : String → Option Instant} (hstart : instant? p.start.text = some p.start)
    (hstop : instant? p.stop.text = some p.stop) :
    (Json.read p.toJson.text).bind (Period.ofJson? instant?) = some p := by
  obtain ⟨w, fields, hread, hfields, hlookup⟩ := Json.exists_read_fields ("end", p.stop.text) [("start", p.start.text)]
    ["start", "end"] (by simp) (by simp)
  have hmembers : p.toJson = .object ([("end", p.stop.text), ("start", p.start.text)].map Json.textMember) := by
    have horder : "end" < "start" := by decide +kernel
    simp only [Period.toJson, Json.Value.record, SortedMap.ofList, List.foldl, SortedMap.insert, if_pos horder,
      Json.textMember, List.map]
  obtain ⟨_, hend, endPieces, rfl, hendText⟩ := hlookup ("end", p.stop.text) (by simp)
  obtain ⟨_, hbegin, startPieces, rfl, hstartText⟩ := hlookup ("start", p.start.text) (by simp)
  rw [hmembers, hread]
  simp [Period.ofJson?, hfields, Json.Fields.required, hend, hbegin, Json.Written.string?, hendText, hstartText, hstart, hstop]

end Time

/-! ## Groupings -/

namespace Query

variable {d : Draft} {fill : FillPolicy} {g : GroupBy} {s : String}

theorem IntervalUnit.not_blank (unit : IntervalUnit) : ∀ c ∈ unit.text, (!isBlank c) = true :=
  List.all_eq_true.1 (by cases unit <;> decide)

/-- there is no blank anywhere in a duration -/
theorem isBlank_of_mem_written {segments : List Segment} : ∀ c ∈ written segments, isBlank c = false := by
  intro c hc
  obtain ⟨x, -, hx⟩ := List.mem_flatMap.1 hc
  rcases List.mem_append.1 hx with hdigit | hunit
  · exact isBlank_of_isDecimalDigit (x.digits_decimal c hdigit)
  · simpa using x.unit.not_blank c hunit

theorem IsDuration.trim_eq (h : IsDuration s.toList) : trim s = s := by
  obtain ⟨segments, -, hwritten⟩ := h
  rw [trim_eq_self_iff, Unpadded, hwritten]
  exact ⟨fun c hc => isBlank_of_mem_written c (List.mem_of_mem_head? hc),
    fun c hc => isBlank_of_mem_written c (List.mem_of_getLast? hc)⟩

/-- a grouping whose interval is a duration is made of its own parts -/
theorem GroupBy.new_self (h : IsDuration g.interval.toList) : GroupBy.new g.interval g.fill = .ok g := by
  rw [GroupBy.new_eq_ok_iff, h.trim_eq]
  exact ⟨h, rfl⟩

/-- the constructors make the groupings whose interval is a duration -/
theorem GroupBy.made_iff : g.Made ↔ IsDuration g.interval.toList := by
  exact ⟨fun h => isInterval_iff.1 h.isInterval, fun h => Or.inl ⟨g.interval, g.fill, GroupBy.new_self h⟩⟩

/-- a fill that is a word is written as its name, and read by it -/
theorem FillPolicy.exists_name (hfill : ∀ x, fill ≠ .value x) :
    ∃ name, fill.toJson = .string name ∧ ∀ w, Json.Tells w name → FillPolicy.ofJson? w = some fill := by
  cases fill with
  | value x => exact absurd rfl (hfill x)
  | _ =>
    refine ⟨_, rfl, ?_⟩
    rintro _ ⟨pieces, rfl, htext⟩
    simp [FillPolicy.ofJson?, Json.Written.variant?, htext]

/-- a grouping is read back from JSON, whatever its interval -/
theorem GroupBy.read_toJson (hfill : ∀ x, g.fill ≠ .value x) : (Json.read g.toJson.text).bind GroupBy.ofJson? = some g := by
  obtain ⟨name, hname, hreadFill⟩ := FillPolicy.exists_name hfill
  obtain ⟨w, fields, hread, hfields, hlookup⟩ := Json.exists_read_fields ("fill", name) [("interval", g.interval)]
    ["interval", "fill"] (by simp) (by simp)
  have hmembers : g.toJson = .object ([("fill", name), ("interval", g.interval)].map Json.textMember) := by
    have horder : "fill" < "interval" := by decide +kernel
    simp only [GroupBy.toJson, hname, Json.Value.record, SortedMap.ofList, List.foldl, SortedMap.insert, if_pos horder,
      Json.textMember, List.map]
  obtain ⟨fillPart, hfill, hfillText⟩ := hlookup ("fill", name) (by simp)
  obtain ⟨_, hinterval, pieces, rfl, hintervalText⟩ := hlookup ("interval", g.interval) (by simp)
  rw [hmembers, hread]
  simp [GroupBy.ofJson?, hfields, Json.Fields.required, hfill, hinterval, Json.Written.string?, hintervalText,
    hreadFill fillPart hfillText]

/-- a grouping adds its clause to a query, and changes nothing else -/
theorem read_of_groupBy (h : d.groupBy = some g) : d.read = ({ d with groupBy := none } : Draft).read.map fun query =>
    { query with text := query.text ++ " GROUP BY time(" ++ g.interval ++ ") FILL(" ++ g.fill.token ++ ")" } := by
  have hclause : d.groupClause = " GROUP BY time(" ++ g.interval ++ ") FILL(" ++ g.fill.token ++ ")" := by
    rw [Draft.groupClause, h]
  have hcolumns : ({ d with groupBy := none } : Draft).columns = d.columns := rfl
  have hfilter : ({ d with groupBy := none } : Draft).instanceFilter = d.instanceFilter := rfl
  rw [Draft.read, Draft.read, hcolumns, hfilter, hclause]
  cases d.columns with
  | error e => rfl
  | ok columns =>
    cases d.instanceFilter with
    | error e => rfl
    | ok filter =>
      refine congrArg Except.ok (congrArg (Statement.mk d.database) ?_)
      simp only [Draft.groupClause, Draft.episodeClause, Draft.periodClause, String.append_assoc, String.append_empty]

end Query

/-! ## Both -/

open Query Time

/-- **What the checks cover.** A constructor makes exactly the groupings whose interval is one segment or more and nothing
else, and making it of its own parts tells whether a grouping is one of them; what a grouping adds to a query has its interval
as it stands. Read from JSON, a grouping with any interval at all is obtained, as long as its fill is a word. A
constructor makes exactly the periods that do not end before they start. Read from JSON, any two instants are obtained as a
period, in whatever order, as long as each of them is read back. -/
theorem checked_when_made (instant? : String → Option Instant) :
    (∀ g : GroupBy, g.Made ↔ ∃ segments, segments ≠ [] ∧ g.interval.toList = written segments) ∧
    (∀ g : GroupBy, GroupBy.new g.interval g.fill = .ok g ↔ g.Made) ∧
    (∀ (d : Draft) (g : GroupBy), d.groupBy = some g →
      d.read = ({ d with groupBy := none } : Draft).read.map fun query =>
        { query with text := query.text ++ " GROUP BY time(" ++ g.interval ++ ") FILL(" ++ g.fill.token ++ ")" }) ∧
    (∀ g : GroupBy, (∀ x, g.fill ≠ .value x) → (Json.read g.toJson.text).bind GroupBy.ofJson? = some g) ∧
    (∀ p : Period, p.Made ↔ p.start ≤ p.stop) ∧
    ∀ p : Period, instant? p.start.text = some p.start → instant? p.stop.text = some p.stop →
      (Json.read p.toJson.text).bind (Period.ofJson? instant?) = some p := by
  refine ⟨fun _ => GroupBy.made_iff, fun g => ?_, fun _ _ h => read_of_groupBy h, fun _ hfill => GroupBy.read_toJson hfill,
    fun _ => Period.made_iff, fun _ => Period.read_toJson⟩
  exact ⟨fun h => Or.inl ⟨g.interval, g.fill, h⟩, fun h => GroupBy.new_self (GroupBy.made_iff.1 h)⟩

/-- a grouping whose interval closes the clause and opens another one -/
def twoClauses : GroupBy := ⟨"1h), time(2h", .null⟩

def twoClausesDraft : Draft :=
  { database := "plant", measurement := "acme", instanceId := some "1:A", selection := some .allFields,
    groupBy := some twoClauses }

/-- a day that ends before it starts -/
def backwardsDay : Period := ⟨⟨86400, 0⟩, ⟨0, 0⟩⟩

/-- both of them are read from JSON, and no constructor makes them -/
theorem checked_when_made_backwardsDay :
    let instant? := fun s => (readInstant s).toOption
    (Json.read twoClauses.toJson.text).bind GroupBy.ofJson? = some twoClauses ∧ ¬ twoClauses.Made ∧
      twoClausesDraft.read = .ok ⟨"plant",
        "SELECT * FROM \"acme\" WHERE EquipmentInstance='1:A' GROUP BY time(1h), time(2h) FILL(null)"⟩ ∧
      (Json.read backwardsDay.toJson.text).bind (Period.ofJson? instant?) = some backwardsDay ∧ ¬ backwardsDay.Made := by
  intro instant?
  obtain ⟨-, hnew, hclause, hgrouping, hordered, hperiod⟩ := checked_when_made instant?
  refine ⟨hgrouping twoClauses nofun, ?_, ?_, ?_, ?_⟩
  · rw [← hnew]
    decide +kernel
  · rw [hclause twoClausesDraft twoClauses rfl]
    decide +kernel
  · exact hperiod backwardsDay (by decide +kernel) (by decide +kernel)
  · rw [hordered]
    decide

/-- the text of such a grouping is accepted, and the same interval refused by the constructor -/
theorem interval_unchecked :
    (Json.read "\x7b\"fill\":\"Null\",\"interval\":\"1h), time(2h\"\x7d").bind GroupBy.ofJson? = some twoClauses ∧
      GroupBy.new "1h), time(2h" .null = .error (.invalidGroupInterval "1h), time(2h") := by
  have htext : twoClauses.toJson.text = "\x7b\"fill\":\"Null\",\"interval\":\"1h), time(2h\"\x7d" := by decide +kernel
  rw [← htext]
  exact ⟨GroupBy.read_toJson nofun, by decide +kernel⟩

end Telemetry
