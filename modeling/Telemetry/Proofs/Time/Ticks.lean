import Telemetry.Proofs.Except
import Telemetry.Time.Period
/-
Instants at storage precision.

The nanoseconds of an instant are counted from 1970 on, and those of a leap second are all counted as the last one before it,
so a later instant never counts less. Of the ticks the nearest is stored, and of two nearest ones the later. Nearest ticks are
in the order of what they are nearest to, so no rounding takes a point out of a period that it is in.

- `counted_mono`: the count is in the order of time;
- `NearestTick.unique`, `NearestTick.mono`: nearest ticks;
- `Period.Made.ordered`: which periods can be made;
- `ticks_in_order`: the tick of an instant, and the ticks of a period.
-/
namespace Telemetry.Time

variable {r s t : Instant} {p : Period}

/-! ## Order -/

theorem Instant.le_refl (t : Instant) : t ≤ t :=
  Or.inr ⟨rfl, Nat.le_refl t.nanos⟩

theorem Instant.le_trans (hrs : r ≤ s) (hst : s ≤ t) : r ≤ t := by
  change r.seconds < t.seconds ∨ r.seconds = t.seconds ∧ r.nanos ≤ t.nanos
  rcases hrs with hrs | ⟨hrs, hrs'⟩ <;> rcases hst with hst | ⟨hst, hst'⟩ <;> omega

theorem Instant.le_of_lt (h : s < t) : s ≤ t := by
  rcases h with h | ⟨h, h'⟩
  · exact Or.inl h
  · exact Or.inr ⟨h, Nat.le_of_lt h'⟩

theorem Instant.not_lt : ¬ t < s ↔ s ≤ t := by
  change ¬ (t.seconds < s.seconds ∨ t.seconds = s.seconds ∧ t.nanos < s.nanos) ↔
    s.seconds < t.seconds ∨ s.seconds = t.seconds ∧ s.nanos ≤ t.nanos
  omega

/-- nanoseconds since 1970, those of a leap second counted as the last one before it -/
def Instant.counted (t : Instant) : Int :=
  t.seconds * 1000000000 + min t.nanos 999999999

/-- a later instant does not count less -/
theorem counted_mono (h : s ≤ t) : s.counted ≤ t.counted := by
  rcases h with hseconds | ⟨hseconds, hnanos⟩
  · -- whatever is counted within an earlier second is less than a second
    unfold Instant.counted
    omega
  · unfold Instant.counted
    omega

/-! ## Nearest ticks -/

/-- the tick nearest to a count, the later one of two -/
structure NearestTick (n m : Int) : Prop where
  tick : 100 ∣ m
  above : n - 50 < m
  below : m ≤ n + 50

/-- nearest ticks are in the order of what they are nearest to -/
theorem NearestTick.mono {n n' m m' : Int} (h : NearestTick n m) (h' : NearestTick n' m') (hn : n ≤ n') : m ≤ m' := by
  obtain ⟨i, rfl⟩ := h.tick
  obtain ⟨j, rfl⟩ := h'.tick
  have hbelow := h.below
  have habove := h'.above
  omega

theorem NearestTick.unique {n m m' : Int} (h : NearestTick n m) (h' : NearestTick n m') : m = m' :=
  Int.le_antisymm (h.mono h' (Int.le_refl n)) (h'.mono h (Int.le_refl n))

theorem unixNanos_nearest (t : Instant) : NearestTick t.counted t.unixNanos := by
  have hcounted : t.unixNanos = (t.counted + 50) / 100 * 100 := rfl
  refine ⟨?_, ?_, ?_⟩
  · exact ⟨(t.counted + 50) / 100, by rw [hcounted, Int.mul_comm]⟩
  · omega
  · omega

theorem unixNanos_mono (h : s ≤ t) : s.unixNanos ≤ t.unixNanos :=
  (unixNanos_nearest s).mono (unixNanos_nearest t) (counted_mono h)

/-! ## Periods -/

/-- the period has been made of instants, of texts, or of hours before an instant -/
inductive Period.Made (p : Period) : Prop
  | between (start stop : Instant) (h : Period.between start stop = .ok p)
  | read (start stop : String) (h : Period.read start stop = .ok p)
  | trailing (stop : Instant) (hours : Int) (h : Period.trailing stop hours = .ok p)

theorem Period.ordered_of_between {start stop : Instant} (h : Period.between start stop = .ok p) : p.start ≤ p.stop := by
  unfold Period.between at h
  split at h
  · cases h
  · rename_i hordered
    cases h
    exact Instant.not_lt.1 hordered

/-- whatever a period is made of, two instants are compared in the end -/
theorem Period.Made.ordered (h : p.Made) : p.start ≤ p.stop := by
  cases h with
  | between start stop h => exact Period.ordered_of_between h
  | read start stop h =>
    obtain ⟨a, -, hrest⟩ := bind_eq_ok_iff.1 h
    obtain ⟨b, -, hbetween⟩ := bind_eq_ok_iff.1 hrest
    exact Period.ordered_of_between hbetween
  | trailing stop hours h =>
    unfold Period.trailing at h
    split at h
    · cases h
    · dsimp only at h
      split at h
      · cases h
      · exact Period.ordered_of_between h

/-- **Ticks keep the order of time.** What is stored of any instant is the one multiple of 100 that is nearest to its
nanoseconds, the later one of two, where those of a leap second count as the last one before it. A later instant is not stored
before an earlier one. So every period that is made of instants, of texts or of hours ends no earlier than it starts, as it is
stored too, and what is stored of an instant within it is within what is stored of its ends. -/
theorem ticks_in_order :
    (∀ t : Instant, let n : Int := t.seconds * 1000000000 + min t.nanos 999999999
      (100 ∣ t.unixNanos ∧ n - 50 < t.unixNanos ∧ t.unixNanos ≤ n + 50) ∧
        ∀ m : Int, 100 ∣ m → n - 50 < m → m ≤ n + 50 → m = t.unixNanos) ∧
    (∀ s t : Instant, s ≤ t → s.unixNanos ≤ t.unixNanos) ∧
    ∀ p : Period, p.Made → p.start ≤ p.stop ∧ p.startNanos ≤ p.stopNanos ∧
      ∀ t : Instant, p.start ≤ t → t ≤ p.stop → p.startNanos ≤ t.unixNanos ∧ t.unixNanos ≤ p.stopNanos := by
  refine ⟨fun t => ?_, fun s t h => unixNanos_mono h, fun p hp => ?_⟩
  · intro n
    have hnearest := unixNanos_nearest t
    refine ⟨⟨hnearest.tick, hnearest.above, hnearest.below⟩, fun m htick habove hbelow => ?_⟩
    exact NearestTick.unique ⟨htick, habove, hbelow⟩ hnearest
  · refine ⟨hp.ordered, unixNanos_mono hp.ordered, fun t hstart hstop => ?_⟩
    exact ⟨unixNanos_mono hstart, unixNanos_mono hstop⟩

/-- the last nanosecond of a leap second before 1970 -/
def leapEnd : Instant := ⟨-86401, 1999999999⟩

/-- the day before that end, and a moment just before the leap second, which is stored half a tick from it -/
theorem ticks_in_order_leap :
    let day : Period := ⟨⟨-172800, 999999999⟩, leapEnd⟩
    let late : Instant := ⟨-86401, 999999949⟩
    Period.trailing leapEnd 24 = .ok day ∧ day.Made ∧ day.start ≤ late ∧ late ≤ day.stop ∧
      late.unixNanos = -86400000000100 ∧ day.startNanos ≤ late.unixNanos ∧ late.unixNanos ≤ day.stopNanos := by
  intro day late
  obtain ⟨htick, -, hperiod⟩ := ticks_in_order
  have hday : Period.trailing leapEnd 24 = .ok day := by
    unfold Period.trailing
    rw [if_neg (by decide)]
    rfl
  obtain ⟨-, -, hwithin⟩ := hperiod day (.trailing leapEnd 24 hday)
  obtain ⟨-, hnearest⟩ := htick late
  have hlate : -86400000000100 = late.unixNanos := hnearest _ (by decide) (by decide) (by decide)
  obtain ⟨hstart, hstop⟩ := hwithin late (by decide) (by decide)
  exact ⟨hday, .trailing leapEnd 24 hday, by decide, by decide, hlate.symm, hstart, hstop⟩

end Telemetry.Time
