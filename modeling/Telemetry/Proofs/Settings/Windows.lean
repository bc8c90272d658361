import Telemetry.Proofs.Decimal.Digits
import Telemetry.Proofs.Service.ReadPipeline
import Telemetry.Proofs.Settings.BlankVariables
import Telemetry.Proofs.Text.Trim
import Telemetry.Proofs.Time.Printed
import Telemetry.Settings
/-
The windows that settings are accepted with, and those that reads can use.

Any number of hours that is positive and fits into 64 bits is accepted as the window of reads. A read takes the window before
the latest point, and is refused for the configuration if it would start before the calendar does. Before a point in the years
0 to 9999 there always is a window of up to `greatestUsableHours`, as many hours as lie between the start of the calendar and
the year 0; longer ones are accepted all the same.

- `exists_loaded_iff`: the windows that are accepted;
- `trailing_succeeds_iff`: those that can be used before every point of these years;
- `undisturbed_iff`: so exactly with these no read is refused for the configuration;
- `accepted_windows`: all of this for settings that have been loaded.
-/
namespace Telemetry

open Program

namespace Settings

open Decimal Text Time

variable {lookup : String → Option String} {s : Settings}

/-! ## Accepted windows -/

/-- settings that have been read, from variables or from TOML -/
inductive Loaded (s : Settings) : Prop
  | fromVariables (lookup : String → Option String) (h : ofVariables lookup = .ok s)
  | fromToml (content : String) (h : ofToml content = .ok s)

theorem numberIn_of_unset {α : Type} {name : String} (h : lookup name = none) (read : String → Option α) :
    numberIn lookup name read = .ok none := by
  rw [numberIn, h]

theorem numberIn_ok {α : Type} {name : String} {read : String → Option α} {a : α}
    (h : numberIn lookup name read = .ok (some a)) : ∃ raw, read raw = some a := by
  unfold numberIn at h
  split at h
  · cases h
  split at h
  · cases h
  split at h
  · rename_i raw _ _ _ hread
    cases h
    exact ⟨_, hread⟩
  · cases h

theorem readIntWithin_le {least greatest n : Int} {raw : String} (h : readIntWithin least greatest raw = some n) :
    n ≤ greatest := by
  have hbounds := (Option.filter_eq_some_iff.1 h).2
  exact (of_decide_eq_true hbounds).2

theorem int?_le {least greatest n : Int} {v : Toml.Value} (h : v.int? least greatest = some n) : n ≤ greatest := by
  unfold Toml.Value.int? at h
  split at h
  · split at h
    · rename_i hbounds
      cases h
      exact hbounds.2
    · cases h
  · cases h

/-- the entries of a document give a window of 64 bits -/
theorem window_of_ofEntries? {entries : List (String × Toml.Value)} (h : ofEntries? entries = some s) :
    s.defaultWindowHours ≤ greatestInt64 := by
  obtain ⟨ttl, -, h⟩ := Option.bind_eq_some_iff.1 h
  obtain ⟨hours, hhours, h⟩ := Option.bind_eq_some_iff.1 h
  obtain ⟨contact, -, h⟩ := Option.bind_eq_some_iff.1 h
  obtain ⟨url, -, h⟩ := Option.bind_eq_some_iff.1 h
  obtain ⟨connections, -, h⟩ := Option.bind_eq_some_iff.1 h
  cases h
  unfold Toml.Fields.withDefault at hhours
  split at hhours
  · exact int?_le hhours
  · cases hhours
    exact (by decide : (24 : Int) ≤ greatestInt64)

/-- the window is positive, and fits into 64 bits -/
theorem Loaded.window (h : Loaded s) : 0 < s.defaultWindowHours ∧ s.defaultWindowHours ≤ greatestInt64 := by
  cases h with
  | fromVariables lookup h =>
    rw [ofVariables_eq] at h
    obtain ⟨ttl, -, h⟩ := bind_eq_ok_iff.1 h
    obtain ⟨window, hwindow, h⟩ := bind_eq_ok_iff.1 h
    obtain ⟨connections, -, h⟩ := bind_eq_ok_iff.1 h
    obtain ⟨⟨hpositive, -⟩, rfl⟩ := check_eq_ok_iff.1 h
    refine ⟨hpositive, ?_⟩
    cases window with
    | none => exact (by decide : (24 : Int) ≤ greatestInt64)
    | some hours =>
      obtain ⟨raw, hread⟩ := numberIn_ok hwindow
      exact readIntWithin_le hread
  | fromToml content h =>
    unfold ofToml at h
    split at h
    · rename_i read hread
      obtain ⟨⟨hpositive, -⟩, rfl⟩ := check_eq_ok_iff.1 h
      obtain ⟨entries, -, hentries⟩ := Option.bind_eq_some_iff.1 hread
      exact ⟨hpositive, window_of_ofEntries? hentries⟩
    · cases h

/-- variables that set nothing but the window -/
def windowVariable (hours : Nat) (name : String) : Option String :=
  if name = "EQUIFLUX_DEFAULT_WINDOW_HOURS" then some (String.ofList (digitsOf hours)) else none

theorem isBlankText_digitsOf (n : Nat) : isBlankText (String.ofList (digitsOf n)) = false := by
  have hsome : digitsOf n ≠ [] := Nat.toDigits_ne_nil
  obtain ⟨c, hc⟩ := List.exists_mem_of_ne_nil _ hsome
  rw [isBlankText, String.toList_ofList, List.all_eq_false]
  exact ⟨c, hc, by simp [isBlank_of_mem_digitsOf hc]⟩

theorem trim_digitsOf (n : Nat) : trim (String.ofList (digitsOf n)) = String.ofList (digitsOf n) := by
  rw [trim, String.toList_ofList, trimmed_eq_self_iff.2]
  constructor
  · intro c hc
    exact isBlank_of_mem_digitsOf (List.mem_of_mem_head? hc)
  · intro c hc
    exact isBlank_of_mem_digitsOf (List.mem_of_mem_getLast? hc)

/-- every positive number of 64 bits is accepted -/
theorem ofVariables_windowVariable {hours : Nat} (hpositive : 0 < hours) (h : (hours : Int) ≤ greatestInt64) :
    ofVariables (windowVariable hours) = .ok { defaultWindowHours := hours } := by
  have hread : readIntWithin leastInt64 greatestInt64 (String.ofList (digitsOf hours)) = some (hours : Int) := by
    rw [readIntWithin, readInt_digitsOf, Option.filter_some_pos]
    have hleast : leastInt64 ≤ hours := Int.le_trans (by decide) (Int.natCast_nonneg hours)
    simp [hleast, h]
  have hwindow : numberIn (windowVariable hours) "EQUIFLUX_DEFAULT_WINDOW_HOURS" (readIntWithin leastInt64 greatestInt64) =
      .ok (some (hours : Int)) := by
    have hset : windowVariable hours "EQUIFLUX_DEFAULT_WINDOW_HOURS" = some (String.ofList (digitsOf hours)) := if_pos rfl
    rw [numberIn, hset]
    simp only [isBlankText_digitsOf, trim_digitsOf, hread]
    rfl
  have hunset (name : String) (hname : name ≠ "EQUIFLUX_DEFAULT_WINDOW_HOURS") : windowVariable hours name = none :=
    if_neg hname
  have hrest (ttl connections : Option Nat) : assembled (windowVariable hours) ttl (some (hours : Int)) connections =
      { cacheTtlHours := ttl.getD 24, defaultWindowHours := hours, maxConnections := connections.getD 5 } := by
    rw [assembled, withoutBlanks, foundAddress, hunset _ (by decide), hunset _ (by decide), hunset _ (by decide)]
    rfl
  rw [ofVariables_eq, hwindow, numberIn_of_unset (hunset _ (by decide)), numberIn_of_unset (hunset _ (by decide))]
  change (assembled (windowVariable hours) none (some (hours : Int)) none).check = _
  rw [hrest]
  exact check_eq_ok_iff.2 ⟨⟨Int.natCast_pos.2 hpositive, Nat.succ_pos 4⟩, rfl⟩

/-- the windows that are accepted -/
theorem exists_loaded_iff {hours : Int} : (∃ s, Loaded s ∧ s.defaultWindowHours = hours) ↔ 0 < hours ∧ hours ≤ greatestInt64 := by
  constructor
  · rintro ⟨s, hs, rfl⟩
    exact hs.window
  · rintro ⟨hpositive, hgreatest⟩
    obtain ⟨n, rfl⟩ := Int.eq_ofNat_of_zero_le (Int.le_of_lt hpositive)
    exact ⟨_, .fromVariables _ (ofVariables_windowVariable (Int.natCast_pos.1 hpositive) hgreatest), rfl⟩

/-! ## Usable windows -/

/-- the hours from the start of the calendar to the start of the year 0 -/
def greatestUsableHours : Int := 2297898336

def yearZero : Instant := .ofDate ⟨0, 1, 1⟩

theorem yearZero_inFourDigits : yearZero.InFourDigits := by
  unfold Instant.InFourDigits
  decide +kernel

theorem onCalendar_of_inFourDigits {stop : Instant} (h : stop.InFourDigits) : stop.OnCalendar := by
  unfold Instant.InFourDigits at h
  unfold Instant.OnCalendar
  omega

/-- before an instant of these years there is a window exactly if it starts on the calendar -/
theorem trailing_succeeds_iff {stop : Instant} {hours : Int} (hstop : stop.InFourDigits) (hhours : 0 < hours) :
    (∃ p, Period.trailing stop hours = .ok p) ↔ earliest ≤ stop.hoursBefore hours.toNat := by
  simp only [trailing_eq_ok_iff]
  constructor
  · rintro ⟨p, -, hstart, -⟩
    exact hstart
  · intro hstart
    have hgreatest := le_greatestWindowHours (onCalendar_of_inFourDigits hstop) (Int.le_of_lt hhours) hstart
    exact ⟨_, ⟨Int.le_of_lt hhours, hgreatest⟩, hstart, rfl⟩

/-- before all of them there is one exactly up to this number of hours -/
theorem usable_iff {hours : Int} (hhours : 0 < hours) :
    (∀ stop : Instant, stop.InFourDigits → ∃ p, Period.trailing stop hours = .ok p) ↔ hours ≤ greatestUsableHours := by
  have hcast : (hours.toNat : Int) = hours := Int.toNat_of_nonneg (Int.le_of_lt hhours)
  have hzero : (Date.mk 0 1 1).dayNumber * 86400 = -62167219200 := by decide +kernel
  unfold greatestUsableHours
  constructor
  · intro h
    have hstart := (trailing_succeeds_iff yearZero_inFourDigits hhours).1 (h yearZero yearZero_inFourDigits)
    rw [earliest_le_iff_seconds, hoursBefore_of_not_leapSecond (by decide +kernel), hcast] at hstart
    change -8334601228800 ≤ (Date.mk 0 1 1).dayNumber * 86400 - hours * 3600 at hstart
    omega
  · intro h stop hstop
    have hyear := (ofDate_le_iff 0 stop).2 hstop.1
    have hearliest := (seconds_hoursBefore stop hours.toNat).1
    rw [ofDate_le_iff_seconds, hzero] at hyear
    rw [trailing_succeeds_iff hstop hhours, earliest_le_iff_seconds]
    omega

/-! ## Reads -/

def service (s : Settings) : Service :=
  ⟨s.supportContact, s.defaultWindowHours⟩

end Settings

namespace World

/-- whenever there is a latest point, it is in the years 0 to 9999 -/
def TellsFourDigits (w : World) : Prop :=
  ∀ query stop, w.historian.latest query = some stop → stop.InFourDigits

theorem latest_of_answer {w w' : World} {query : Query.Statement} {found : Option Time.Instant}
    (h : w.answer (.historianLatest query) = (.ok found, w')) : w.historian.latest query = found := by
  simp only [answer, onHistorian] at h
  split at h
  · cases h
  · cases h
    rfl

end World

namespace Service

open Settings Time

variable {service : Service} {w w1 w2 : World} {e : ServiceError}

/-- no read is refused for the configuration, as long as latest points are in the years 0 to 9999 -/
structure Undisturbed (service : Service) : Prop where
  read : ∀ request w w' e, w.TellsFourDigits → (service.read request).run w = (.error e, w') → e.code ≠ "CONFIGURATION_ERROR"
  readMath : ∀ request w w' e, w.TellsFourDigits → (service.readMath request).run w = (.error e, w') →
    e.code ≠ "CONFIGURATION_ERROR"

/-- a window that is refused in the course of a program is refused before a point in these years -/
theorem WindowRefused.latest {α : Type} {p : Action α} (hp : p.Only Call.Quiet) (hw : w.TellsFourDigits)
    (h : WindowRefused World.catalog.toSurroundings service (p.moments World.answer w) e) :
    ∃ stop : Instant, stop.InFourDigits ∧ Period.trailing stop service.defaultWindowHours = .error e := by
  obtain ⟨m, hm, query, stop, w', -, hanswer, hrefused⟩ := h
  have hsame := (moments_invariant (I := fun v => v.historian = w.historian)
    (fun v c _ hv => (World.answer_historian v c).trans hv) hp rfl m hm).1
  have hlatest : m.state.historian.latest query = some stop := World.latest_of_answer hanswer
  rw [hsame] at hlatest
  exact ⟨stop, hw query stop hlatest, hrefused⟩

/-- with a window that can be used before all of these points, no read is disturbed -/
theorem undisturbed_of_usable
    (h : ∀ stop : Instant, stop.InFourDigits → ∃ p, Period.trailing stop service.defaultWindowHours = .ok p) :
    service.Undisturbed := by
  have hnone (stop : Instant) (e : ServiceError) (hstop : stop.InFourDigits) :
      Period.trailing stop service.defaultWindowHours ≠ .error e := by
    obtain ⟨p, hp⟩ := h stop hstop
    rw [hp]
    exact nofun
  refine ⟨fun request w w' e hw hread => ?_, fun request w w' e hw hread => ?_⟩
  · rcases read_failure (S := World.catalog) hread with hplain | ⟨-, hrefused⟩
    · exact hplain.code_ne
    · obtain ⟨stop, hstop, htrailing⟩ := hrefused.latest (read_quiet service request) hw
      exact absurd htrailing (hnone stop e hstop)
  · rcases readMath_failure (S := World.catalog) hread with hplain | ⟨-, hrefused⟩
    · exact hplain.code_ne
    · obtain ⟨stop, hstop, htrailing⟩ := hrefused.latest (readMath_quiet service request) hw
      exact absurd htrailing (hnone stop e hstop)

/-- the pump's plant, where the latest point is at some instant -/
def plantAt (stop : Instant) : World :=
  { loadedPlant with historian := { loadedPlant.historian with latest := fun _ => some stop } }

/-- everything that is stored for the pump -/
def pumpFields : ReadRequest := { wkeid := "M1:S1", channels := [] }

/-- a read without a period is refused if the window is -/
theorem read_plantAt {stop : Instant} (h : Period.trailing stop service.defaultWindowHours = .error e) :
    ((service.read pumpFields).run (plantAt stop)).1 = .error e := by
  have hlocate : ((service.locate pumpFields).run (plantAt stop)).1 = .ok (some (⟨"PUMP", "ACME", "E1"⟩, [])) := rfl
  have hrefused (v : World) : (service.windowBefore (some stop)).run v = (.error e, v) := by
    rw [windowBefore, h]
    rfl
  rw [read_eq, World.run_bind_of_ok (perform_of_fst hlocate)]
  change ((service.windowBefore (some stop) >>= answerWithin pumpFields ⟨"PUMP", "ACME", "E1"⟩ []).run _).1 = _
  rw [World.run_bind_of_error (hrefused _)]

/-- no read is disturbed exactly if the window can be used before all of these points -/
theorem undisturbed_iff (hwindow : 0 < service.defaultWindowHours) :
    service.Undisturbed ↔ service.defaultWindowHours ≤ greatestUsableHours := by
  rw [← usable_iff hwindow]
  constructor
  · intro h stop hstop
    cases htrailing : Period.trailing stop service.defaultWindowHours with
    | ok p => exact ⟨p, rfl⟩
    | error e =>
      have htold : (plantAt stop).TellsFourDigits := by
        rintro query t ht
        cases ht
        exact hstop
      have hcode := h.read pumpFields (plantAt stop) _ e htold (perform_of_fst (read_plantAt htrailing))
      rcases trailing_error_cases htrailing with rfl | rfl
      · exact absurd rfl hcode
      · exact absurd rfl hcode
  · exact undisturbed_of_usable

end Service

namespace Settings

open Decimal Time

variable {s : Settings}

/-- **Which accepted windows can be used.** Settings are accepted with exactly the windows that are positive and fit into 64
bits. For settings that have been loaded and an instant in the years 0 to 9999, there is a window before the instant if and
only if it does not start before the calendar does. There is one before each of these instants if and only if the hours are
no more than those between the start of the calendar and the year 0. In the same cases, and in no other, no read is refused
for the configuration as long as latest points are in these years. -/
theorem accepted_windows (h : Loaded s) :
    (∀ hours : Int, (∃ t, Loaded t ∧ t.defaultWindowHours = hours) ↔ 0 < hours ∧ hours ≤ greatestInt64) ∧
    (∀ stop : Instant, stop.InFourDigits →
      ((∃ p, Period.trailing stop s.defaultWindowHours = .ok p) ↔
        earliest ≤ stop.hoursBefore s.defaultWindowHours.toNat)) ∧
    ((∀ stop : Instant, stop.InFourDigits → ∃ p, Period.trailing stop s.defaultWindowHours = .ok p) ↔
      s.defaultWindowHours ≤ greatestUsableHours) ∧
    (s.service.Undisturbed ↔ s.defaultWindowHours ≤ greatestUsableHours) :=
  ⟨fun _ => exists_loaded_iff, fun _ hstop => trailing_succeeds_iff hstop h.window.1, usable_iff h.window.1,
    Service.undisturbed_iff h.window.1⟩

/-- the greatest window that can be used, and one hour more -/
theorem accepted_windows_limit :
    Loaded { defaultWindowHours := 2297898336 } ∧ Service.Undisturbed ⟨"equipment data support", 2297898336⟩ ∧
      Loaded { defaultWindowHours := 2297898337 } ∧ ¬ Service.Undisturbed ⟨"equipment data support", 2297898337⟩ := by
  have hlimit : Loaded { defaultWindowHours := 2297898336 } :=
    .fromVariables _ (ofVariables_windowVariable (by decide : 0 < 2297898336) (by decide))
  have hbeyond : Loaded { defaultWindowHours := 2297898337 } :=
    .fromVariables _ (ofVariables_windowVariable (by decide : 0 < 2297898337) (by decide))
  obtain ⟨-, -, -, hused⟩ := accepted_windows hlimit
  obtain ⟨-, -, -, hunused⟩ := accepted_windows hbeyond
  exact ⟨hlimit, hused.2 (by decide), hbeyond, mt hunused.1 (by decide)⟩

/-- the greatest number of 64 bits is accepted for the window, and then reads are refused for it -/
theorem greatest_window_refused :
    let may := Instant.ofDate ⟨2024, 5, 1⟩
    let refusal := ServiceError.config "invalid window of 9223372036854775807 hours"
    ofVariables (windowVariable 9223372036854775807) = .ok { defaultWindowHours := 9223372036854775807 } ∧
      may.InFourDigits ∧ Period.trailing may 9223372036854775807 = .error refusal ∧
      ((Service.read ⟨"equipment data support", 9223372036854775807⟩ Service.pumpFields).run (Service.plantAt may)).1 =
        .error refusal := by
  intro may refusal
  have hmay : may.InFourDigits := by
    unfold Instant.InFourDigits
    decide +kernel
  have hrefused : Period.trailing may 9223372036854775807 = .error refusal := by decide +kernel
  exact ⟨ofVariables_windowVariable (by decide) (by decide), hmay, hrefused, Service.read_plantAt hrefused⟩

end Settings

end Telemetry
