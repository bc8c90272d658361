import Mathlib.Tactic.SplitIfs
import Telemetry.Proofs.Decimal.Digits
import Telemetry.Proofs.Except
import Telemetry.Proofs.Text.Trim
import Telemetry.Query.Grouping
/-
The grammar of intervals.

An interval is written as one segment or more with nothing between them, a segment as digits of any script and a unit. The
scan that decides what is an interval stands, after each character, in a state that says what may still follow; so it accepts
what is written like this and nothing else. No interval can be cut in two ways: a count ends at the first character that is
no digit, and a unit at the next digit.

- `next_goesOnWith_iff`: one step of the scan, by what may follow its state;
- `isInterval_iff`: the whole scan;
- `written_inj`: different segments are written differently;
- `interval_grammar`: which groupings there are, and what is refused.
-/
namespace Telemetry.Query

open Text

/-! ## Segments -/

/-- the units, with the two ways to write microseconds -/
inductive IntervalUnit where
  | nanoseconds | microseconds | microSign | milliseconds | seconds | minutes | hours | days | weeks
  deriving DecidableEq, Repr

def IntervalUnit.text : IntervalUnit → List Char
  | .nanoseconds => ['n', 's']
  | .microseconds => ['u']
  | .microSign => ['µ']
  | .milliseconds => ['m', 's']
  | .seconds => ['s']
  | .minutes => ['m']
  | .hours => ['h']
  | .days => ['d']
  | .weeks => ['w']

/-- one digit or more, and a unit -/
@[ext]
structure Segment where
  digits : List Char
  unit : IntervalUnit
  digits_ne_nil : digits ≠ []
  digits_decimal : ∀ c ∈ digits, isDecimalDigit c = true

def Segment.text (x : Segment) : List Char := x.digits ++ x.unit.text

/-- segments written one after another -/
def written (segments : List Segment) : List Char := segments.flatMap Segment.text

/-- one segment or more, and nothing else -/
def IsDuration (cs : List Char) : Prop := ∃ segments, segments ≠ [] ∧ cs = written segments

variable {c : Char} {cs : List Char} {state : IntervalState}

theorem written_cons (x : Segment) (segments : List Segment) :
    written (x :: segments) = x.digits ++ (x.unit.text ++ written segments) := by
  rw [written, List.flatMap_cons, Segment.text, List.append_assoc]
  rfl

/-- a segment starts with a digit -/
theorem Segment.exists_digits (x : Segment) : ∃ d ds, x.digits = d :: ds ∧ isDecimalDigit d = true := by
  obtain ⟨d, ds, hdigits⟩ := List.exists_cons_of_ne_nil x.digits_ne_nil
  exact ⟨d, ds, hdigits, x.digits_decimal d (by simp [hdigits])⟩

/-- a unit starts with a character that is no digit -/
theorem IntervalUnit.exists_text (unit : IntervalUnit) : ∃ u us, unit.text = u :: us ∧ isDecimalDigit u = false := by
  cases unit <;> exact ⟨_, _, rfl, by decide +kernel⟩

/-! ## What may follow -/

/-- no segment, or some -/
def Segments (cs : List Char) : Prop := ∃ segments, cs = written segments

/-- digits, a unit, and segments after it -/
def Counted (cs : List Char) : Prop :=
  ∃ digits unit segments, (∀ c ∈ digits, isDecimalDigit c = true) ∧ cs = digits ++ (IntervalUnit.text unit ++ written segments)

/-- what may follow a state up to the end of an interval -/
def IntervalState.GoesOnWith : IntervalState → List Char → Prop
  | .start, cs => IsDuration cs
  | .count, cs => Counted cs
  | .nano, cs => ∃ rest, cs = 's' :: rest ∧ Segments rest
  | .milli, cs => Segments cs ∨ ∃ rest, cs = 's' :: rest ∧ Segments rest
  | .complete, cs => Segments cs

/-- segments go on with a digit, and with what may follow it -/
theorem segments_cons_iff : Segments (c :: cs) ↔ isDecimalDigit c = true ∧ Counted cs := by
  constructor
  · rintro ⟨_ | ⟨x, segments⟩, h⟩
    · cases h
    · obtain ⟨d, ds, hdigits, hd⟩ := x.exists_digits
      rw [written_cons, hdigits] at h
      obtain ⟨rfl, rfl⟩ := List.cons.inj h
      refine ⟨hd, ds, x.unit, segments, fun c hc => x.digits_decimal c ?_, rfl⟩
      rw [hdigits]
      exact List.mem_cons_of_mem _ hc
  · rintro ⟨hc, digits, unit, segments, hdigits, rfl⟩
    exact ⟨⟨c :: digits, unit, by simp, by simpa using ⟨hc, hdigits⟩⟩ :: segments, by rw [written_cons]; rfl⟩

theorem isDuration_cons_iff : IsDuration (c :: cs) ↔ Segments (c :: cs) := by
  constructor
  · rintro ⟨segments, -, h⟩
    exact ⟨segments, h⟩
  · rintro ⟨segments, h⟩
    refine ⟨segments, ?_, h⟩
    rintro rfl
    cases h

/-- a duration is not empty -/
theorem not_isDuration_nil : ¬ IsDuration [] := by
  rintro ⟨_ | ⟨x, segments⟩, hne, h⟩
  · exact hne rfl
  · obtain ⟨d, ds, hdigits, -⟩ := x.exists_digits
    rw [written_cons, hdigits] at h
    cases h

/-- after a digit another one may follow, with the same to follow it, or a unit -/
theorem counted_cons_iff : Counted (c :: cs) ↔
    (isDecimalDigit c = true ∧ Counted cs) ∨ ∃ unit rest, c :: cs = IntervalUnit.text unit ++ rest ∧ Segments rest := by
  constructor
  · rintro ⟨_ | ⟨d, digits⟩, unit, segments, hdigits, h⟩
    · exact Or.inr ⟨unit, written segments, h, segments, rfl⟩
    · obtain ⟨rfl, rfl⟩ := List.cons.inj h
      exact Or.inl ⟨hdigits c List.mem_cons_self, digits, unit, segments, fun d hd => hdigits d (List.mem_cons_of_mem _ hd), rfl⟩
  · rintro (⟨hc, digits, unit, segments, hdigits, rfl⟩ | ⟨unit, _, h, segments, rfl⟩)
    · exact ⟨c :: digits, unit, segments, by simpa using ⟨hc, hdigits⟩, rfl⟩
    · exact ⟨[], unit, segments, by simp, h⟩

/-! ## The scan -/

/-- a digit starts a count or is one more digit of it, but it stands nowhere within a unit -/
theorem next_of_digit (hc : isDecimalDigit c = true) (state : IntervalState) :
    state.next c = if state = .nano then none else some .count := by
  unfold IntervalState.next
  rw [if_pos hc]
  cases state <;> rfl

/-- a unit follows a count -/
theorem next_of_unit (hc : isDecimalDigit c = false) :
    IntervalState.count.next c = if c = 'n' then some .nano
      else if c = 'm' then some .milli
      else if c = 'u' ∨ c = 'µ' ∨ c = 's' ∨ c = 'h' ∨ c = 'd' ∨ c = 'w' then some .complete
      else none := by
  unfold IntervalState.next
  rw [hc]
  rfl

/-- the only second character that a unit can have -/
theorem next_within_unit (hc : isDecimalDigit c = false) (hstate : state = .nano ∨ state = .milli) :
    state.next c = if c = 's' then some .complete else none := by
  unfold IntervalState.next
  rw [hc]
  rcases hstate with rfl | rfl <;> rfl

/-- segments start with digits only -/
theorem next_between_segments (hc : isDecimalDigit c = false) (hstate : state = .start ∨ state = .complete) :
    state.next c = none := by
  unfold IntervalState.next
  rw [hc]
  rcases hstate with rfl | rfl <;> rfl

/-- a unit goes on from its first character with the rest of it, and with segments -/
theorem exists_unit_iff (hc : isDecimalDigit c = false) :
    (∃ unit rest, c :: cs = IntervalUnit.text unit ++ rest ∧ Segments rest) ↔
      ∃ state', IntervalState.next .count c = some state' ∧ state'.GoesOnWith cs := by
  constructor
  · rintro ⟨unit, rest, h, hrest⟩
    cases unit with
    | nanoseconds =>
      obtain ⟨rfl, rfl⟩ := List.cons.inj h
      exact ⟨.nano, by decide +kernel, rest, rfl, hrest⟩
    | milliseconds =>
      obtain ⟨rfl, rfl⟩ := List.cons.inj h
      exact ⟨.milli, by decide +kernel, Or.inr ⟨rest, rfl, hrest⟩⟩
    | minutes =>
      obtain ⟨rfl, rfl⟩ := List.cons.inj h
      exact ⟨.milli, by decide +kernel, Or.inl hrest⟩
    | _ =>
      obtain ⟨rfl, rfl⟩ := List.cons.inj h
      exact ⟨.complete, by decide +kernel, hrest⟩
  · rintro ⟨state', hnext, hrest⟩
    rw [next_of_unit hc] at hnext
    split_ifs at hnext with hn hm hsingle
    · cases hnext
      obtain ⟨rest, rfl, hrest⟩ := hrest
      exact ⟨.nanoseconds, rest, by rw [hn]; rfl, hrest⟩
    · cases hnext
      rcases hrest with hrest | ⟨rest, rfl, hrest⟩
      · exact ⟨.minutes, cs, by rw [hm]; rfl, hrest⟩
      · exact ⟨.milliseconds, rest, by rw [hm]; rfl, hrest⟩
    · cases hnext
      rcases hsingle with rfl | rfl | rfl | rfl | rfl | rfl
      · exact ⟨.microseconds, cs, rfl, hrest⟩
      · exact ⟨.microSign, cs, rfl, hrest⟩
      · exact ⟨.seconds, cs, rfl, hrest⟩
      · exact ⟨.hours, cs, rfl, hrest⟩
      · exact ⟨.days, cs, rfl, hrest⟩
      · exact ⟨.weeks, cs, rfl, hrest⟩

theorem not_exists_unit (hc : isDecimalDigit c = true) :
    ¬ ∃ unit rest, c :: cs = IntervalUnit.text unit ++ rest ∧ Segments rest := by
  rintro ⟨unit, rest, h, -⟩
  obtain ⟨u, us, htext, hu⟩ := unit.exists_text
  rw [htext] at h
  obtain ⟨rfl, -⟩ := List.cons.inj h
  rw [hu] at hc
  cases hc

/-- a state goes on with a character exactly if its step leads to one that goes on with what follows the character -/
theorem next_goesOnWith_iff :
    (∃ state', state.next c = some state' ∧ state'.GoesOnWith cs) ↔ state.GoesOnWith (c :: cs) := by
  by_cases hc : isDecimalDigit c = true
  · have hs : c ≠ 's' := by
      rintro rfl
      exact absurd hc (by decide +kernel)
    rw [next_of_digit hc]
    cases state with
    | start | complete => simp [IntervalState.GoesOnWith, isDuration_cons_iff, segments_cons_iff, hc]
    | count =>
      simp only [IntervalState.GoesOnWith, counted_cons_iff, hc, not_exists_unit hc]
      simp
    | nano => simp [IntervalState.GoesOnWith, hs]
    | milli => simp [IntervalState.GoesOnWith, segments_cons_iff, hc, hs]
  · rw [Bool.not_eq_true] at hc
    cases state with
    | start | complete =>
      simp [IntervalState.GoesOnWith, isDuration_cons_iff, segments_cons_iff, hc, next_between_segments]
    | count => simp [IntervalState.GoesOnWith, counted_cons_iff, exists_unit_iff, hc]
    | nano => simp [IntervalState.GoesOnWith, next_within_unit, hc]
    | milli => simp [IntervalState.GoesOnWith, next_within_unit, segments_cons_iff, hc]

/-- an interval may end in a state exactly if nothing may follow it -/
theorem isFinal_iff : state.isFinal = true ↔ state.GoesOnWith [] := by
  have hnone : Segments [] := ⟨[], rfl⟩
  cases state with
  | start => simp [IntervalState.isFinal, IntervalState.GoesOnWith, not_isDuration_nil]
  | count =>
    refine iff_of_false (by decide) ?_
    rintro ⟨digits, unit, segments, -, h⟩
    obtain ⟨u, us, htext, -⟩ := unit.exists_text
    simp [htext] at h
  | nano => simp [IntervalState.isFinal, IntervalState.GoesOnWith]
  | milli | complete => simp [IntervalState.isFinal, IntervalState.GoesOnWith, hnone]

/-- a scan ends where an interval may end exactly if what it has read may follow the state it started in -/
theorem foldlM_next_iff :
    (∃ state', cs.foldlM IntervalState.next state = some state' ∧ state'.isFinal = true) ↔ state.GoesOnWith cs := by
  induction cs generalizing state with
  | nil =>
    rw [← isFinal_iff]
    simp
  | cons c cs ih =>
    rw [← next_goesOnWith_iff, List.foldlM_cons]
    simp only [← ih, Option.bind_eq_bind, Option.bind_eq_some_iff]
    constructor
    · rintro ⟨last, ⟨state', hnext, hrest⟩, hfinal⟩
      exact ⟨state', hnext, last, hrest, hfinal⟩
    · rintro ⟨state', hnext, last, hrest, hfinal⟩
      exact ⟨last, ⟨state', hnext, hrest⟩, hfinal⟩

/-- the scan accepts what is written as segments, and nothing else -/
theorem isInterval_iff : isInterval cs = true ↔ IsDuration cs := by
  rw [← show IntervalState.start.GoesOnWith cs ↔ IsDuration cs from Iff.rfl, ← foldlM_next_iff]
  unfold isInterval
  split
  · rename_i state hstate
    simp [hstate]
  · rename_i hnone
    simp [hnone]

/-! ## One way to cut an interval -/

/-- a run of characters of one kind ends where another kind follows -/
theorem takeWhile_run {p : Char → Bool} {xs ys : List Char} (hxs : ∀ c ∈ xs, p c = true)
    (hys : ∀ c ∈ ys.head?, p c = false) : (xs ++ ys).takeWhile p = xs := by
  have hstop : ys.takeWhile p = [] := by
    cases ys with
    | nil => rfl
    | cons y ys => exact List.takeWhile_cons_of_neg (by simp [hys y rfl])
  rw [List.takeWhile_append_of_pos hxs, hstop, List.append_nil]

theorem IntervalUnit.letters (unit : IntervalUnit) : ∀ c ∈ unit.text, (!isDecimalDigit c) = true :=
  List.all_eq_true.1 (by cases unit <;> decide +kernel)

theorem IntervalUnit.text_inj {unit unit' : IntervalUnit} (h : unit.text = unit'.text) : unit = unit' := by
  cases unit <;> cases unit' <;> first | rfl | cases h

theorem head_written (segments : List Segment) : ∀ c ∈ (written segments).head?, isDecimalDigit c = true := by
  cases segments with
  | nil => simp [written]
  | cons x segments =>
    obtain ⟨d, ds, hdigits, hd⟩ := x.exists_digits
    rw [written_cons, hdigits]
    simpa using hd

/-- the digits of the first segment are those in front -/
theorem takeWhile_written (x : Segment) (rest : List Char) :
    (x.digits ++ (x.unit.text ++ rest)).takeWhile isDecimalDigit = x.digits := by
  obtain ⟨u, us, htext, hu⟩ := x.unit.exists_text
  exact takeWhile_run x.digits_decimal (by simpa [htext] using hu)

/-- a unit ends before the next digit -/
theorem takeWhile_unit (unit : IntervalUnit) (segments : List Segment) :
    (unit.text ++ written segments).takeWhile (fun c => !isDecimalDigit c) = unit.text :=
  takeWhile_run unit.letters fun c hc => by simp [head_written segments c hc]

/-- different segments are written differently -/
theorem written_inj {xs ys : List Segment} : written xs = written ys ↔ xs = ys := by
  refine ⟨fun h => ?_, congrArg written⟩
  induction xs generalizing ys with
  | nil =>
    cases ys with
    | nil => rfl
    | cons y ys => exact absurd ⟨y :: ys, by simp, h⟩ not_isDuration_nil
  | cons x xs ih =>
    cases ys with
    | nil => exact absurd ⟨x :: xs, by simp, h.symm⟩ not_isDuration_nil
    | cons y ys =>
      rw [written_cons, written_cons] at h
      have hdigits : x.digits = y.digits := by
        have hrun := congrArg (List.takeWhile isDecimalDigit) h
        rwa [takeWhile_written, takeWhile_written] at hrun
      rw [hdigits] at h
      have hrest := List.append_cancel_left h
      have hunit : x.unit = y.unit := by
        have hrun := congrArg (List.takeWhile fun c => !isDecimalDigit c) hrest
        rw [takeWhile_unit, takeWhile_unit] at hrun
        exact IntervalUnit.text_inj hrun
      rw [hunit] at hrest
      rw [Segment.ext hdigits hunit, ih (List.append_cancel_left hrest)]

/-! ## Groupings -/

variable {interval : String} {fill : FillPolicy} {g : GroupBy}

theorem GroupBy.new_eq_ok_iff :
    GroupBy.new interval fill = .ok g ↔ IsDuration (trim interval).toList ∧ g = ⟨trim interval, fill⟩ := by
  rw [GroupBy.new, ← isInterval_iff]
  split
  · rename_i hinterval
    simp [hinterval, eq_comm]
  · rename_i hinterval
    simp [hinterval]

theorem GroupBy.new_eq_error_iff {e : ServiceError} :
    GroupBy.new interval fill = .error e ↔ ¬ IsDuration (trim interval).toList ∧ e = .invalidGroupInterval interval := by
  rw [GroupBy.new, ← isInterval_iff]
  split
  · rename_i hinterval
    simp [hinterval]
  · rename_i hinterval
    simp [hinterval, eq_comm]

/-- the interval of a grouping makes the same grouping once more -/
theorem GroupBy.new_of_new (h : GroupBy.new interval fill = .ok g) : GroupBy.new g.interval g.fill = .ok g := by
  obtain ⟨hduration, rfl⟩ := GroupBy.new_eq_ok_iff.1 h
  refine GroupBy.new_eq_ok_iff.2 ?_
  dsimp only
  rw [trim_trim]
  exact ⟨hduration, rfl⟩

/-- **The grammar of intervals.** Whatever the fill, an interval is accepted exactly if what trimming leaves of it is one
segment or more, each of them one digit or more and a unit, and nothing else; no text can be cut into segments in two ways.
The grouping has the trimmed interval, and making a grouping of that once more gives the same one. Every other interval is
refused with the error that names it as it was given. -/
theorem interval_grammar (interval : String) (fill : FillPolicy) :
    (∀ g, GroupBy.new interval fill = .ok g ↔
      (∃ segments, segments ≠ [] ∧ (trim interval).toList = written segments) ∧ g = ⟨trim interval, fill⟩) ∧
    (∀ e, GroupBy.new interval fill = .error e ↔
      (¬ ∃ segments, segments ≠ [] ∧ (trim interval).toList = written segments) ∧ e = .invalidGroupInterval interval) ∧
    (∀ segments segments', written segments = written segments' ↔ segments = segments') ∧
    (GroupBy.new interval fill >>= fun g => GroupBy.new g.interval g.fill) = GroupBy.new interval fill := by
  refine ⟨fun g => GroupBy.new_eq_ok_iff, fun e => GroupBy.new_eq_error_iff, fun _ _ => written_inj, ?_⟩
  cases hnew : GroupBy.new interval fill with
  | error e => rfl
  | ok g =>
    exact bind_eq_ok_iff.2 ⟨g, rfl, GroupBy.new_of_new hnew⟩

/-- blanks around it, digits of two scripts, and units that start alike -/
example : (GroupBy.new " 1h٣٠ms5m " .null).toOption = some ⟨"1h٣٠ms5m", .null⟩ := by decide +kernel

end Telemetry.Query
