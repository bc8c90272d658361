import Mathlib.Algebra.GroupWithZero.Nat
import Mathlib.Data.List.GetD
import Telemetry.Time.Civil
/-
Dates and days are numbered one to one.

The first days of the years are as far apart as the years are long, so the year that a day is searched in is the one that has
it, and of the months, one after another, the first that the day does not exceed is the one that has it. So the date of a day
exists, and is numbered by the day.

- `yearOfDay_spec`: the year that has a day;
- `monthAndDay_spec`: the month and the day of the month;
- `isValid_ofDayNumber`, `dayNumber_ofDayNumber`: the date of a day exists, and has its number.
-/
namespace Telemetry.Time

/-! ## Years -/

def daysInYear (year : Int) : Nat :=
  if isLeapYear year then 366 else 365

theorem isLeapYear_iff (year : Int) : isLeapYear year = true ↔ year % 4 = 0 ∧ (year % 100 ≠ 0 ∨ year % 400 = 0) := by
  simp [isLeapYear]

/-- a year is as long as the next one starts after it -/
theorem daysBeforeYear_succ (year : Int) : daysBeforeYear (year + 1) = daysBeforeYear year + daysInYear year := by
  unfold daysInYear
  split
  · rename_i hleap
    have hmod := (isLeapYear_iff year).1 hleap
    unfold daysBeforeYear
    omega
  · rename_i hcommon
    have hmod := mt (isLeapYear_iff year).2 hcommon
    unfold daysBeforeYear
    omega

/-- the year of a day has started by then, and the next one has not -/
theorem yearOfDay_spec (n : Int) : daysBeforeYear (Date.yearOfDay n) ≤ n ∧ n < daysBeforeYear (Date.yearOfDay n + 1) := by
  unfold Date.yearOfDay
  dsimp only
  -- 400 years have 146097 days, so the year that is guessed is off by one at most
  split
  · rename_i hearlier
    rw [Int.sub_add_cancel]
    refine ⟨?_, hearlier⟩
    unfold daysBeforeYear
    omega
  split
  · rename_i hlater
    refine ⟨hlater, ?_⟩
    unfold daysBeforeYear
    omega
  · rename_i hstarted hended
    exact ⟨Int.not_lt.1 hstarted, Int.not_le.1 hended⟩

/-! ## Months -/

theorem daysInMonth_eq (year : Int) (month : Nat) : daysInMonth year (month + 1) = (monthLengths (isLeapYear year)).getD month 0 :=
  rfl

theorem sum_monthLengths (year : Int) : (monthLengths (isLeapYear year)).sum = daysInYear year := by
  unfold daysInYear
  cases isLeapYear year <;> rfl

/-- the month that has a day: those before it have the days before its first -/
theorem monthAndDay_spec (first : Nat) (lengths : List Nat) (k : Nat) (h : k < lengths.sum) :
    ∃ i day, monthAndDay first lengths k = (first + i, day + 1) ∧ i < lengths.length ∧ day < lengths.getD i 0 ∧
      (lengths.take i).sum + day = k := by
  induction lengths generalizing first k with
  | nil => simp at h
  | cons length rest ih =>
    rw [monthAndDay]
    split
    · rename_i hk
      exact ⟨0, k, rfl, by simp, by simpa using hk, by simp⟩
    · rename_i hk
      rw [List.sum_cons] at h
      obtain ⟨i, day, heq, hi, hday, hsum⟩ := ih (first + 1) (k - length) (by omega)
      refine ⟨i + 1, day, ?_, ?_, ?_, ?_⟩
      · rw [heq, Nat.add_assoc, Nat.add_comm 1]
      · simpa using hi
      · simpa using hday
      · rw [List.take_succ_cons, List.sum_cons]
        omega

theorem length_monthLengths (leap : Bool) : (monthLengths leap).length = 12 := by
  cases leap <;> rfl

theorem daysInMonth_le (year : Int) (month : Nat) : daysInMonth year month ≤ 31 := by
  have hall : ∀ leap, ∀ length ∈ monthLengths leap, length ≤ 31 := by decide
  cases month with
  | zero => exact Nat.zero_le _
  | succ m =>
    rw [daysInMonth_eq]
    by_cases hm : m < (monthLengths (isLeapYear year)).length
    · rw [List.getD_eq_getElem _ _ hm]
      exact hall _ _ (List.getElem_mem hm)
    · rw [List.getD_eq_default _ _ (Nat.not_lt.1 hm)]
      exact Nat.zero_le _

/-- a date that exists has a month and a day of a month -/
theorem Date.isValid_bounds {d : Date} (h : d.isValid = true) : (1 ≤ d.month ∧ d.month ≤ 12) ∧ 1 ≤ d.day ∧ d.day ≤ 31 := by
  simp only [Date.isValid, Bool.and_eq_true, decide_eq_true_eq] at h
  have hlength := daysInMonth_le d.year d.month
  omega

/-! ## Days -/

/-- the date of a day has a month of its year and a day of this month, after the days before them -/
theorem ofDayNumber_spec (days : Int) : ∃ (year : Int) (i day : Nat), Date.ofDayNumber days = ⟨year, i + 1, day + 1⟩ ∧
    i < 12 ∧ day < daysInMonth year (i + 1) ∧
    daysBeforeYear year + ((monthLengths (isLeapYear year)).take i).sum + day = days + epochDay := by
  obtain ⟨hstarted, hended⟩ := yearOfDay_spec (days + epochDay)
  rw [daysBeforeYear_succ] at hended
  have hday : (days + epochDay - daysBeforeYear (Date.yearOfDay (days + epochDay))).toNat <
      (monthLengths (isLeapYear (Date.yearOfDay (days + epochDay)))).sum := by
    rw [sum_monthLengths]
    omega
  obtain ⟨i, day, hmonth, hi, hlast, hsum⟩ := monthAndDay_spec 1 _ _ hday
  refine ⟨Date.yearOfDay (days + epochDay), i, day, ?_, by rwa [length_monthLengths] at hi, hlast, ?_⟩
  · rw [Date.ofDayNumber, hmonth, Nat.add_comm 1]
  · omega

/-- the date of a day exists -/
theorem isValid_ofDayNumber (days : Int) : (Date.ofDayNumber days).isValid = true := by
  obtain ⟨year, i, day, hdate, hi, hday, -⟩ := ofDayNumber_spec days
  simp only [hdate, Date.isValid, Bool.and_eq_true, decide_eq_true_eq]
  omega

/-- the date of a day has its number -/
theorem dayNumber_ofDayNumber (days : Int) : (Date.ofDayNumber days).dayNumber = days := by
  obtain ⟨year, i, day, hdate, -, -, hsum⟩ := ofDayNumber_spec days
  simp only [hdate, Date.dayNumber, Nat.add_sub_cancel, ← List.sum_eq_foldl]
  omega

end Telemetry.Time
