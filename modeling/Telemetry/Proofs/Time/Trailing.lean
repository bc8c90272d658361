import Telemetry.Proofs.Time.Calendar
import Telemetry.Proofs.Time.Ticks
/-
Windows of hours before an instant.

A window starts no later than it ends, so two instants are never refused for their order here: a window is refused because
its hours are negative or more than a duration holds, or because it would start before the calendar does. Both are told as
failures of the configuration. No instant of the calendar is as far from its start as the longest duration, so only the sign
of the hours and the start of the calendar decide.

- `ofDate_le_iff`, `earliest_le_iff_seconds`: days, years and the calendar through seconds;
- `trailing_eq`: a window without a comparison of its ends;
- `fits_hours_iff`: the hours that a duration of 64 bits of milliseconds holds;
- `trailing_windows`: which windows there are, what they are, and how large the numbers on the way become.
-/
namespace Telemetry.Time

open Decimal

variable {stop : Instant} {hours : Int} {p : Period}

/-! ## Years -/

/-- later years start later -/
theorem daysBeforeYear_mono {a b : Int} (h : a ≤ b) : daysBeforeYear a ≤ daysBeforeYear b := by
  unfold daysBeforeYear
  omega

/-- a day is in a year or a later one exactly if it is not before the first day of the year -/
theorem le_yearOfDay_iff (year n : Int) : year ≤ Date.yearOfDay n ↔ daysBeforeYear year ≤ n := by
  obtain ⟨hstarted, hended⟩ := yearOfDay_spec n
  constructor
  · intro h
    exact Int.le_trans (daysBeforeYear_mono h) hstarted
  · intro h
    refine Int.not_lt.1 fun hearlier => ?_
    have hnext : daysBeforeYear (Date.yearOfDay n + 1) ≤ daysBeforeYear year := daysBeforeYear_mono hearlier
    omega

theorem dayNumber_newYear (year : Int) : (Date.mk year 1 1).dayNumber = daysBeforeYear year - epochDay := by
  simp [Date.dayNumber]

/-- an instant is on a day or a later one exactly if its second is -/
theorem ofDate_le_iff_seconds (d : Date) (t : Instant) : Instant.ofDate d ≤ t ↔ d.dayNumber * 86400 ≤ t.seconds := by
  change d.dayNumber * 86400 < t.seconds ∨ d.dayNumber * 86400 = t.seconds ∧ 0 ≤ t.nanos ↔ _
  omega

/-- an instant is in a year or a later one exactly if it is not before the first instant of the year -/
theorem ofDate_le_iff (year : Int) (t : Instant) : Instant.ofDate ⟨year, 1, 1⟩ ≤ t ↔ year ≤ t.date.year := by
  have hyear : t.date.year = Date.yearOfDay (t.seconds / 86400 + epochDay) := rfl
  rw [ofDate_le_iff_seconds, dayNumber_newYear, hyear, le_yearOfDay_iff]
  omega

/-- within the years of the calendar -/
def Instant.OnCalendar (t : Instant) : Prop :=
  -262143 ≤ t.date.year ∧ t.date.year ≤ 262142

theorem earliest_le_iff (t : Instant) : earliest ≤ t ↔ -262143 ≤ t.date.year :=
  ofDate_le_iff (-262143) t

/-- the second that the calendar starts with -/
theorem earliest_le_iff_seconds (t : Instant) : earliest ≤ t ↔ -8334601228800 ≤ t.seconds := by
  have hday : (Date.mk (-262143) 1 1).dayNumber * 86400 = -8334601228800 := by decide +kernel
  rw [earliest, ofDate_le_iff_seconds, hday]

/-- the seconds of the calendar -/
theorem Instant.OnCalendar.seconds {t : Instant} (h : t.OnCalendar) :
    -8334601228800 ≤ t.seconds ∧ t.seconds < 8210266876800 := by
  refine ⟨(earliest_le_iff_seconds t).1 ((earliest_le_iff t).2 h.1), Int.not_le.1 fun hlater => ?_⟩
  have hday : (Date.mk 262143 1 1).dayNumber * 86400 = 8210266876800 := by decide +kernel
  rw [← hday, ← ofDate_le_iff_seconds, ofDate_le_iff] at hlater
  have hlast := h.2
  omega

/-! ## Windows -/

/-- outside leap seconds, hours before an instant are seconds before it -/
theorem hoursBefore_of_not_leapSecond {t : Instant} (h : t.isLeapSecond = false) (hours : Nat) :
    t.hoursBefore hours = ⟨t.seconds - hours * 3600, t.nanos⟩ := by
  unfold Instant.hoursBefore
  split
  · rename_i hzero
    simp [hzero]
  · rw [if_neg (by simp [h])]
    rfl

/-- some hours before an instant in a leap second are counted from the second after it -/
theorem hoursBefore_of_leapSecond {t : Instant} (h : t.isLeapSecond = true) {hours : Nat} (hhours : 0 < hours) :
    t.hoursBefore hours = ⟨t.seconds + 1 - hours * 3600, t.nanos - 1000000000⟩ := by
  unfold Instant.hoursBefore
  rw [if_neg (Nat.ne_of_gt hhours), if_pos h]
  rfl

/-- the second that a window starts in, which may be one later for the end of a leap second -/
theorem seconds_hoursBefore (t : Instant) (hours : Nat) :
    t.seconds - hours * 3600 ≤ (t.hoursBefore hours).seconds ∧
      (t.hoursBefore hours).seconds ≤ t.seconds + 1 - hours * 3600 := by
  cases hleap : t.isLeapSecond with
  | false =>
    rw [hoursBefore_of_not_leapSecond hleap]
    dsimp only
    omega
  | true =>
    rcases Nat.eq_zero_or_pos hours with rfl | hhours
    · have hsame : t.hoursBefore 0 = t := rfl
      rw [hsame]
      omega
    · rw [hoursBefore_of_leapSecond hleap hhours]
      dsimp only
      omega

/-- a window starts no later than it ends -/
theorem hoursBefore_le (t : Instant) (hours : Nat) : t.hoursBefore hours ≤ t := by
  rcases Nat.eq_zero_or_pos hours with rfl | hhours
  · exact Instant.le_refl t
  · have hseconds := (seconds_hoursBefore t hours).2
    exact Or.inl (by omega)

/-- the ends of a window need not be compared -/
theorem trailing_eq (stop : Instant) (hours : Int) : Period.trailing stop hours =
    if hours < 0 ∨ greatestWindowHours < hours then .error (.config s!"invalid window of {hours} hours")
    else if stop.hoursBefore hours.toNat < earliest then .error (.config s!"window of {hours} hours underflows")
    else .ok ⟨stop.hoursBefore hours.toNat, stop⟩ := by
  have hordered : Period.between (stop.hoursBefore hours.toNat) stop = .ok ⟨stop.hoursBefore hours.toNat, stop⟩ := by
    unfold Period.between
    rw [if_neg (Instant.not_lt.2 (hoursBefore_le stop hours.toNat))]
  unfold Period.trailing
  simp only [hordered]

theorem trailing_eq_ok_iff : Period.trailing stop hours = .ok p ↔
    (0 ≤ hours ∧ hours ≤ greatestWindowHours) ∧ earliest ≤ stop.hoursBefore hours.toNat ∧
      p = ⟨stop.hoursBefore hours.toNat, stop⟩ := by
  rw [trailing_eq]
  split
  · rename_i hhours
    refine ⟨fun h => (by cases h), fun h => ?_⟩
    omega
  split
  · rename_i hearly
    refine ⟨fun h => (by cases h), fun h => ?_⟩
    exact absurd hearly (Instant.not_lt.2 h.2.1)
  · rename_i hhours hearly
    rw [Except.ok.injEq]
    refine ⟨fun h => ⟨by omega, Instant.not_lt.1 hearly, h.symm⟩, fun h => h.2.2.symm⟩

/-- a window is refused for its hours, or because it would start too early -/
theorem trailing_error_cases {e : ServiceError} (h : Period.trailing stop hours = .error e) :
    e = .config s!"invalid window of {hours} hours" ∨ e = .config s!"window of {hours} hours underflows" := by
  rw [trailing_eq] at h
  split at h
  · cases h
    exact Or.inl rfl
  split at h
  · cases h
    exact Or.inr rfl
  · cases h

/-- no window on the calendar is longer than a duration may be -/
theorem le_greatestWindowHours (hstop : stop.OnCalendar) (hhours : 0 ≤ hours)
    (hstart : earliest ≤ stop.hoursBefore hours.toNat) : hours ≤ greatestWindowHours := by
  have hseconds := hstop.seconds
  have hlatest := (seconds_hoursBefore stop hours.toNat).2
  rw [Int.toNat_of_nonneg hhours] at hlatest
  rw [earliest_le_iff_seconds] at hstart
  unfold greatestWindowHours
  omega

/-! ## Numbers on the way -/

/-- a signed word of 64 bits holds the number -/
def FitsInt64 (n : Int) : Prop :=
  leastInt64 ≤ n ∧ n ≤ greatestInt64

/-- a signed word of 128 bits holds the number -/
def FitsInt128 (n : Int) : Prop :=
  -170141183460469231731687303715884105728 ≤ n ∧ n ≤ 170141183460469231731687303715884105727

/-- a duration is counted in milliseconds -/
theorem fits_hours_iff (hhours : 0 ≤ hours) : FitsInt64 (hours * 3600 * 1000) ↔ hours ≤ greatestWindowHours := by
  unfold FitsInt64 leastInt64 greatestInt64 greatestWindowHours
  omega

/-- what is between the start of the calendar and an instant on it is on it too -/
theorem Instant.OnCalendar.of_le {t : Instant} (hstop : stop.OnCalendar) (hstart : earliest ≤ t) (h : t ≤ stop) :
    t.OnCalendar := by
  refine ⟨(earliest_le_iff t).1 hstart, Int.not_lt.1 fun hlater => ?_⟩
  have hyear := (ofDate_le_iff 262143 stop).1 (Instant.le_trans ((ofDate_le_iff 262143 t).2 hlater) h)
  have hlast := hstop.2
  omega

theorem Instant.OnCalendar.fits_unixNanos {t : Instant} (h : t.OnCalendar) : FitsInt128 t.unixNanos := by
  have hseconds := h.seconds
  have hnearest := unixNanos_nearest t
  have habove := hnearest.above
  have hbelow := hnearest.below
  unfold Instant.counted at habove hbelow
  unfold FitsInt128
  omega

/-- what is counted for a window that a duration holds -/
theorem Instant.OnCalendar.fits_hoursBefore (hstop : stop.OnCalendar) (hhours : 0 ≤ hours)
    (hfits : FitsInt64 (hours * 3600 * 1000)) :
    FitsInt64 (hours * 3600) ∧ FitsInt64 (stop.seconds + 1) ∧ FitsInt64 (stop.hoursBefore hours.toNat).seconds := by
  have hseconds := hstop.seconds
  have hstart := seconds_hoursBefore stop hours.toNat
  rw [Int.toNat_of_nonneg hhours] at hstart
  unfold FitsInt64 leastInt64 greatestInt64 at hfits ⊢
  omega

/-- hours earlier outside leap seconds are stored as many nanoseconds earlier -/
theorem unixNanos_hoursBefore {t : Instant} (h : t.isLeapSecond = false) (hours : Nat) :
    (t.hoursBefore hours).unixNanos = t.unixNanos - hours * 3600 * 1000000000 := by
  have hticks (s : Instant) : s.unixNanos = (s.counted + 50) / 100 * 100 := rfl
  have hcounted : (t.hoursBefore hours).counted = t.counted - hours * 3600 * 1000000000 := by
    rw [hoursBefore_of_not_leapSecond h]
    simp only [Instant.counted]
    omega
  rw [hticks, hticks, hcounted]
  omega

/-- **Windows of hours.** For any instant of the calendar and any number of hours, there is a window of these hours before the
instant exactly if the hours are not negative and the window does not start before the calendar does. Otherwise it is refused
as a failure of the configuration, never for the order of its ends. Hours that are too many for 64 bits as milliseconds are
refused as they are; of any others, what is counted fits into 64 bits, and into 128 as nanoseconds. A window ends with the
instant and starts no later, on the calendar. Outside leap seconds it starts exactly these hours earlier, and is stored so; in
a leap second no hours leave the instant as it is, and others are counted from the second after it. -/
theorem trailing_windows (stop : Instant) (hours : Int) (hstop : stop.OnCalendar) :
    ((∃ p, Period.trailing stop hours = .ok p) ↔ 0 ≤ hours ∧ earliest ≤ stop.hoursBefore hours.toNat) ∧
    (∀ e, Period.trailing stop hours = .error e →
      e = .config s!"invalid window of {hours} hours" ∨ e = .config s!"window of {hours} hours underflows") ∧
    (¬ FitsInt64 (hours * 3600 * 1000) →
      Period.trailing stop hours = .error (.config s!"invalid window of {hours} hours")) ∧
    (0 ≤ hours → FitsInt64 (hours * 3600 * 1000) →
      FitsInt64 (hours * 3600) ∧ FitsInt64 (stop.seconds + 1) ∧ FitsInt64 (stop.hoursBefore hours.toNat).seconds) ∧
    ∀ p, Period.trailing stop hours = .ok p →
      p.stop = stop ∧ p.start ≤ p.stop ∧ p.start.OnCalendar ∧ FitsInt128 p.startNanos ∧ FitsInt128 p.stopNanos ∧
        (stop.isLeapSecond = false → p.start = ⟨stop.seconds - hours * 3600, stop.nanos⟩ ∧
          p.startNanos = p.stopNanos - hours * 3600 * 1000000000) ∧
        (stop.isLeapSecond = true → p.start =
          if hours = 0 then stop else ⟨stop.seconds + 1 - hours * 3600, stop.nanos - 1000000000⟩) := by
  refine ⟨?_, fun e => trailing_error_cases, ?_, ?_, ?_⟩
  · simp only [trailing_eq_ok_iff]
    constructor
    · rintro ⟨p, hhours, hstart, -⟩
      exact ⟨hhours.1, hstart⟩
    · rintro ⟨hhours, hstart⟩
      exact ⟨_, ⟨hhours, le_greatestWindowHours hstop hhours hstart⟩, hstart, rfl⟩
  · intro hlong
    have hhours : hours < 0 ∨ greatestWindowHours < hours := by
      by_cases hhours : 0 ≤ hours
      · exact Or.inr (Int.not_le.1 (mt (fits_hours_iff hhours).2 hlong))
      · exact Or.inl (Int.not_le.1 hhours)
    rw [trailing_eq, if_pos hhours]
  · intro hhours hfits
    exact hstop.fits_hoursBefore hhours hfits
  · intro p hp
    obtain ⟨⟨hhours, -⟩, hstart, rfl⟩ := trailing_eq_ok_iff.1 hp
    have hle := hoursBefore_le stop hours.toNat
    have hon := hstop.of_le hstart hle
    have hcast : (hours.toNat : Int) = hours := Int.toNat_of_nonneg hhours
    refine ⟨rfl, hle, hon, hon.fits_unixNanos, hstop.fits_unixNanos, fun hleap => ⟨?_, ?_⟩, fun hleap => ?_⟩
    · rw [hoursBefore_of_not_leapSecond hleap, hcast]
    · have hstored := unixNanos_hoursBefore hleap hours.toNat
      rwa [hcast] at hstored
    · split
      · rename_i hzero
        rw [hzero]
        rfl
      · rename_i hnonzero
        rw [hoursBefore_of_leapSecond hleap (by omega), hcast]

/-- a quarter into the leap second at the end of 2016 -/
def leapQuarter : Instant := ⟨1483228799, 1250000000⟩

/-- an hour before the leap second is counted from the second after it; of the greatest number of hours there is no window,
although it does not fit as milliseconds -/
theorem trailing_windows_leap :
    leapQuarter.OnCalendar ∧ Period.trailing leapQuarter 1 = .ok ⟨⟨1483225200, 250000000⟩, leapQuarter⟩ ∧
      ¬ FitsInt64 (greatestInt64 * 3600 * 1000) ∧
      Period.trailing leapQuarter greatestInt64 = .error (.config "invalid window of 9223372036854775807 hours") := by
  have hon : leapQuarter.OnCalendar := by
    unfold Instant.OnCalendar
    decide +kernel
  have hunfit : ¬ FitsInt64 (greatestInt64 * 3600 * 1000) := by
    unfold FitsInt64
    decide
  obtain ⟨hsucceeds, -, -, -, hwindow⟩ := trailing_windows leapQuarter 1 hon
  obtain ⟨-, -, hlong, -, -⟩ := trailing_windows leapQuarter greatestInt64 hon
  obtain ⟨⟨start, stop⟩, hp⟩ := hsucceeds.2 ⟨by decide, by decide +kernel⟩
  obtain ⟨rfl, -, -, -, -, -, hstart⟩ := hwindow _ hp
  have hstarted : start = ⟨1483225200, 250000000⟩ := hstart (by decide)
  refine ⟨hon, ?_, hunfit, hlong hunfit⟩
  rw [hp, hstarted]

end Telemetry.Time
