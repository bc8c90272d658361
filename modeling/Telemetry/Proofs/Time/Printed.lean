import Telemetry.Proofs.Time.Forms
/-
Instants as they are printed, and read again.

The form in reports is a date-time in form: numbers have zeros in front as far as their fields are wide, and the fraction has
the digits that are needed, with an offset of nothing at the end. The date and the clock that it shows are those of the
instant, and the day and the second of the day that they stand for are those that they were made of; a leap second is printed
as second 60, and second 60 is read as a leap second.

- `length_padded`, `denotes_padded`: numbers as they are printed;
- `fractionText_cases`: fractions as they are printed;
- `Date.text_spec`, `Clock.text_spec`: dates and clocks as they are printed;
- `Instant.Regular.instantAt`: the printed date and clock stand for the instant;
- `Instant.Regular.instantOf_offsetText`: an instant is read as it is printed;
- `regular_of_instantOf`: whatever is read can be printed.
-/
namespace Telemetry.Time

open Decimal Text

variable {mark : Char} {width a b c n : Nat} {t : Instant}

/-! ## Numbers -/

theorem denotes_padded (width n : Nat) : Denotes (padded width n) n := by
  have hn := denotes_digitsOf n
  refine ⟨fun c hc => ?_, ?_⟩
  · rcases List.mem_append.1 hc with hzero | hdigit
    · rw [List.eq_of_mem_replicate hzero]
      rfl
    · exact hn.digits c hdigit
  · have hzeros := digitsValue_zeros [] (width - (digitsOf n).length)
    rw [List.nil_append] at hzeros
    rw [padded, digitsValue_append, hzeros, hn.value]
    simp [digitsValue]

theorem length_padded (hwidth : 0 < width) (hn : n < 10 ^ width) : (padded width n).length = width := by
  have hlength : (digitsOf n).length ≤ width := (Nat.length_toDigits_le_iff (by decide) hwidth).2 hn
  rw [padded, List.length_append, List.length_replicate, Nat.sub_add_cancel hlength]

theorem isDecimalDigit_padded (width n : Nat) : ∀ c ∈ padded width n, isDecimalDigit c = true :=
  fun c hc => isDecimalDigit_of_isAsciiDigit ((denotes_padded width n).digits c hc)

/-- three numbers are printed where they are looked for -/
theorem inThree_padded (mark : Char) (hwidth : 0 < width) (ha : a < 10 ^ width) (hb : b < 10 ^ 2) (hc : c < 10 ^ 2) :
    InThree mark width (padded width a ++ mark :: (padded 2 b ++ mark :: padded 2 c))
      (padded width a) (padded 2 b) (padded 2 c) :=
  ⟨rfl, ⟨length_padded hwidth ha, isDecimalDigit_padded width a⟩, ⟨length_padded (by decide) hb, isDecimalDigit_padded 2 b⟩,
    ⟨length_padded (by decide) hc, isDecimalDigit_padded 2 c⟩⟩

theorem showsThree_padded (mark : Char) (hwidth : 0 < width) (ha : a < 10 ^ width) (hb : b < 10 ^ 2) (hc : c < 10 ^ 2) :
    ShowsThree mark width (padded width a ++ mark :: (padded 2 b ++ mark :: padded 2 c)) a b c :=
  (inThree_padded mark hwidth ha hb hc).shows_iff.2 ⟨denotes_padded width a, denotes_padded 2 b, denotes_padded 2 c⟩

/-! ## Fractions -/

/-- a fraction is printed not at all, or with as many digits as it needs -/
theorem fractionText_cases (hn : n < 10 ^ 9) : (fractionText n = [] ∧ n = 0) ∨
    ∃ width k, fractionText n = '.' :: padded width k ∧ (0 < width ∧ width ≤ 9) ∧ k < 10 ^ width ∧ k * 10 ^ (9 - width) = n := by
  unfold fractionText
  split
  · exact Or.inl ⟨rfl, by assumption⟩
  split
  · exact Or.inr ⟨3, n / 1000000, rfl, by decide, by omega, by omega⟩
  split
  · exact Or.inr ⟨6, n / 1000, rfl, by decide, by omega, by omega⟩
  · exact Or.inr ⟨9, n, rfl, by decide, hn, by omega⟩

theorem showsFraction_padded {k : Nat} (hwidth : 0 < width ∧ width ≤ 9) (hk : k < 10 ^ width) :
    ShowsFraction (padded width k) (k * 10 ^ (9 - width)) := by
  have hlength := length_padded hwidth.1 hk
  have hkept : (padded width k).take 9 = padded width k := List.take_of_length_le (by omega)
  have hdenotes := denotes_padded width k
  refine ⟨?_, ?_⟩
  · rw [hkept]
    exact hdenotes.digits
  · rw [hkept, hlength, hdenotes.value]

/-- a printed fraction has a point if it has digits, and they show it -/
theorem fractionText_spec (hn : n < 10 ^ 9) :
    ∃ fraction, fractionText n = pointed fraction ∧ (∀ c ∈ fraction, isDecimalDigit c = true) ∧ ShowsFraction fraction n := by
  rcases fractionText_cases hn with ⟨htext, rfl⟩ | ⟨width, k, htext, hwidth, hk, rfl⟩
  · exact ⟨[], htext, List.forall_mem_nil _, by simp, rfl⟩
  · have hlength := length_padded hwidth.1 hk
    obtain ⟨d, ds, hds⟩ := List.exists_cons_of_length_pos (hlength ▸ hwidth.1)
    refine ⟨padded width k, ?_, isDecimalDigit_padded width k, showsFraction_padded hwidth hk⟩
    rw [htext, hds, pointed]

/-! ## Instants -/

namespace Instant

/-- within a second, or within a leap second, which is the last of a minute -/
def Regular (t : Instant) : Prop :=
  t.nanos < nanosPerSecond ∨ (t.nanos < 2 * nanosPerSecond ∧ t.seconds % 60 = 59)

/-- in a year that is printed as four digits -/
def InFourDigits (t : Instant) : Prop :=
  0 ≤ t.date.year ∧ t.date.year ≤ 9999

def clock (t : Instant) : Clock :=
  ⟨t.secondOfDay / 3600, t.secondOfDay / 60 % 60, t.secondOfDay % 60 + if t.isLeapSecond then 1 else 0⟩

def subsecond (t : Instant) : Nat :=
  t.nanos - (if t.isLeapSecond then 1 else 0) * nanosPerSecond

theorem secondOfDay_eq (t : Instant) : (t.secondOfDay : Int) = t.seconds % 86400 :=
  Int.toNat_of_nonneg (Int.emod_nonneg _ (by decide))

theorem clock_isValid (t : Instant) : t.clock.isValid = true := by
  have hday := t.secondOfDay_eq
  rw [Clock.isValid_iff, clock]
  cases t.isLeapSecond <;> simp <;> omega

/-- a regular instant is within a second, or within a leap second at the end of a minute -/
theorem Regular.cases (ht : t.Regular) : (t.isLeapSecond = false ∧ t.nanos < 1000000000) ∨
    (t.isLeapSecond = true ∧ 1000000000 ≤ t.nanos ∧ t.nanos < 2000000000 ∧ t.seconds % 60 = 59) := by
  simp only [Regular, nanosPerSecond] at ht
  simp only [isLeapSecond, decide_eq_true_eq, decide_eq_false_iff_not]
  simp only [nanosPerSecond]
  omega

theorem Regular.subsecond_lt (ht : t.Regular) : t.subsecond < 10 ^ 9 := by
  rcases ht.cases with ⟨hleap, hnanos⟩ | ⟨hleap, hfrom, hnanos, -⟩
  · simpa [subsecond, hleap] using hnanos
  · simp only [subsecond, hleap, if_true, nanosPerSecond]
    omega

/-- second 60 stands for a leap second -/
theorem Regular.second (ht : t.Regular) : min t.clock.second 59 = t.secondOfDay % 60 ∧
    (if t.clock.second = 60 then t.subsecond + nanosPerSecond else t.subsecond) = t.nanos := by
  have hday := t.secondOfDay_eq
  rcases ht.cases with ⟨hleap, hnanos⟩ | ⟨hleap, hfrom, -, hminute⟩
  · have hsecond : t.clock.second = t.secondOfDay % 60 := by simp [clock, hleap]
    have hsub : t.subsecond = t.nanos := by simp [subsecond, hleap]
    rw [hsecond, hsub, if_neg (by omega)]
    exact ⟨by omega, rfl⟩
  · -- the last second of a minute is printed as the one after it
    have hsecond : t.clock.second = 60 := by
      simp only [clock, hleap, if_true]
      omega
    have hsub : t.subsecond = t.nanos - 1000000000 := by simp [subsecond, hleap, nanosPerSecond]
    rw [hsecond, hsub, if_pos rfl, nanosPerSecond]
    omega

/-- the date and the clock that are printed stand for the instant -/
theorem Regular.instantAt (ht : t.Regular) : instantAt t.date t.clock t.subsecond = .ok t := by
  have hvalid : t.date.isValid = true := isValid_ofDayNumber _
  have hdate : t.date.dayNumber = t.seconds / 86400 := dayNumber_ofDayNumber _
  have hday := t.secondOfDay_eq
  obtain ⟨hsecond, hnanos⟩ := ht.second
  have hseconds : t.seconds / 86400 * secondsPerDay +
      ((t.clock.hour * 3600 + t.clock.minute * 60 + t.secondOfDay % 60 : Nat) : Int) = t.seconds := by
    simp only [clock, secondsPerDay]
    omega
  rw [Time.instantAt, if_pos hvalid, hdate]
  dsimp only
  rw [hsecond, hseconds, hnanos]

/-! ## Texts -/

/-- the printed form without its offset, the fraction as its digits -/
def stamp (t : Instant) (fraction : List Char) : Stamp :=
  ⟨t.date.text, 'T', padded 2 t.clock.hour ++ ':' :: (padded 2 t.clock.minute ++ ':' :: padded 2 t.clock.second), fraction⟩

end Instant

theorem Date.text_eq {d : Date} (hyear : 0 ≤ d.year ∧ d.year ≤ 9999) :
    d.text = padded 4 d.year.toNat ++ '-' :: (padded 2 d.month ++ '-' :: padded 2 d.day) := by
  rw [Date.text, yearText, if_pos hyear, List.append_assoc, List.cons_append]

/-- a date of a year of four digits is printed in form -/
theorem Date.text_spec {d : Date} (hvalid : d.isValid = true) (hyear : 0 ≤ d.year ∧ d.year ≤ 9999) :
    matchesPicture datePicture d.text = true ∧ ShowsDate d.text d := by
  obtain ⟨hmonth, hday⟩ := Date.isValid_bounds hvalid
  have hyears : d.year.toNat < 10 ^ 4 := by omega
  rw [Date.text_eq hyear]
  refine ⟨matchesPicture_date.2 ⟨_, _, _, inThree_padded '-' (by decide) hyears (by omega) (by omega)⟩, ?_⟩
  exact ⟨d.year.toNat, (Int.toNat_of_nonneg hyear.1).symm, showsThree_padded '-' (by decide) hyears (by omega) (by omega)⟩

theorem Clock.text_spec {c : Clock} (hvalid : c.isValid = true) :
    let cs := padded 2 c.hour ++ ':' :: (padded 2 c.minute ++ ':' :: padded 2 c.second)
    matchesPicture clockPicture cs = true ∧ ShowsClock cs c := by
  have hbounds := Clock.isValid_iff.1 hvalid
  have hhour : c.hour < 10 ^ 2 := by omega
  refine ⟨matchesPicture_clock.2 ⟨_, _, _, inThree_padded ':' (by decide) hhour (by omega) (by omega)⟩, ?_⟩
  exact showsThree_padded ':' (by decide) hhour (by omega) (by omega)

namespace Instant

theorem offsetText_eq {fraction : List Char} (h : fractionText t.subsecond = pointed fraction) :
    t.offsetText = String.ofList ((t.stamp fraction).chars ++ ['+', '0', '0', ':', '0', '0']) := by
  have hclock : t.clockText = padded 2 t.clock.hour ++ ':' :: padded 2 t.clock.minute ++ ':' :: padded 2 t.clock.second
      ++ fractionText t.subsecond := rfl
  rw [offsetText, textWithZone, hclock, h]
  simp [stamp, Stamp.chars]

/-- an instant of a year of four digits is read as it is printed -/
theorem Regular.instantOf_offsetText (ht : t.Regular) (hyear : t.InFourDigits) :
    instantOf t.offsetText = .ok t := by
  obtain ⟨fraction, htext, hdigits, hfraction⟩ := fractionText_spec ht.subsecond_lt
  obtain ⟨hdate, hshowsDate⟩ := Date.text_spec (isValid_ofDayNumber _) hyear
  obtain ⟨hclock, hshowsClock⟩ := Clock.text_spec t.clock_isValid
  have hform : (t.stamp fraction).InForm := ⟨hdate, Or.inl rfl, hclock, hdigits⟩
  have hshown : ((t.stamp fraction).parts none).Shows t :=
    ⟨t.date, t.clock, t.subsecond, hshowsDate, hshowsClock, hfraction, t.clock_isValid, ht.instantAt⟩
  rw [offsetText_eq htext]
  exact (Stamp.reads_zeros hform (Or.inl rfl)).2 ((Stamp.reads_iff hform).2 hshown)

end Instant

/-! ## What is read can be printed -/

theorem ShowsFraction.lt {fraction : List Char} (h : ShowsFraction fraction n) : n < 10 ^ 9 := by
  have hkept : digitsValue (fraction.take 9) < 10 ^ (fraction.take 9).length := Denotes.lt ⟨h.digits, rfl⟩
  have hlength : (fraction.take 9).length ≤ 9 := List.length_take_le 9 fraction
  calc
    n = digitsValue (fraction.take 9) * 10 ^ (9 - (fraction.take 9).length) := h.value.symm
    _ < 10 ^ (fraction.take 9).length * 10 ^ (9 - (fraction.take 9).length) :=
      Nat.mul_lt_mul_of_pos_right hkept (Nat.pow_pos (by decide))
    _ = 10 ^ 9 := by rw [← Nat.pow_add, Nat.add_sub_cancel' hlength]

theorem regular_of_instantAt {d : Date} {c : Clock} (hn : n < 10 ^ 9) (h : instantAt d c n = .ok t) : t.Regular := by
  unfold instantAt at h
  split at h
  · cases h
    simp only [Instant.Regular, secondsPerDay, nanosPerSecond]
    split <;> omega
  · cases h

theorem Parts.Shows.regular {p : Parts} (h : p.Shows t) : t.Regular := by
  obtain ⟨d, c, nanos, -, -, hfraction, -, ht⟩ := h
  exact regular_of_instantAt hfraction.lt ht

theorem sixty_dvd_of_readOffset {offset : List Char} {east : Int} (hoffset : isOffset offset = true)
    (h : readOffset offset = .ok east) : 60 ∣ east := by
  rcases isOffset_iff.1 hoffset with rfl | rfl | ⟨sign, hours, minutes, hshift⟩
  · cases h
    exact ⟨0, rfl⟩
  · cases h
    exact ⟨0, rfl⟩
  · obtain ⟨n, -, rfl⟩ := (readOffset_shift_ok_iff hshift).1 h
    split <;> omega

/-- an offset is of whole minutes, so an instant that is read is within a second or at the end of a minute -/
theorem regular_of_instantOf {s : String} (h : instantOf s = .ok t) : t.Regular := by
  have hread := instantOf_eq_ok_iff.1 h
  simp only [readInstant] at hread
  split at hread
  · rename_i hdate
    obtain ⟨d, -, ht⟩ := (readDateOnly_ok_iff hdate).1 hread
    exact regular_of_instantAt (by decide) ht
  split at hread
  · cases hread
  rename_i p hparts
  obtain ⟨hform, hoffset⟩ := inForm_of_split? hparts
  split at hread
  · exact ((readUniversal_ok_iff hform).1 hread).regular
  · rename_i offset hsome
    obtain ⟨east, s, heast, hs, rfl⟩ := (readWithOffset_ok_iff hform).1 hread
    have hminutes := sixty_dvd_of_readOffset (hoffset offset hsome) heast
    have hregular := hs.regular
    simp only [Instant.Regular] at hregular ⊢
    omega

end Telemetry.Time
