import Telemetry.Proofs.Except
import Telemetry.Settings
/-
Blank environment variables.

A blank variable counts as one that is not set: numbers and the contact are read past it, each under its one name. The
database has two names. If its first one is set to a blank, its second one is not asked for, and an address under it is not
found (`AddressHidden`).

- `numberIn_withoutBlanks`: numbers without the blank variables;
- `ofVariables_withoutBlanks`: all settings without them;
- `blank_variables`: when they are the same;
- `hidden_address`: settings that are not.
-/
namespace Telemetry.Settings

open Decimal Text

/-- the variables without those that are blank -/
def withoutBlanks (lookup : String → Option String) : String → Option String :=
  fun name => (lookup name).filter fun v => !isBlankText v

/-- the database's address under the first of its names that is not blank -/
def address (lookup : String → Option String) : Option String :=
  (withoutBlanks lookup "DATABASE_URL").or (withoutBlanks lookup "EQUIFLUX_DATABASE_URL")

/-- the database's first name is set to a blank, and there is an address under its second one -/
def AddressHidden (lookup : String → Option String) : Prop :=
  (∃ blank, lookup "DATABASE_URL" = some blank ∧ isBlankText blank = true) ∧
    ∃ url, lookup "EQUIFLUX_DATABASE_URL" = some url ∧ isBlankText url = false

variable {lookup : String → Option String} {s : Settings}

/-! ## Single variables -/

theorem withoutBlanks_of_blank {name raw : String} (h : lookup name = some raw) (hblank : isBlankText raw = true) :
    withoutBlanks lookup name = none := by
  rw [withoutBlanks, h, Option.filter_some_neg]
  simp [hblank]

theorem withoutBlanks_of_text {name raw : String} (h : lookup name = some raw) (htext : isBlankText raw = false) :
    withoutBlanks lookup name = some raw := by
  rw [withoutBlanks, h, Option.filter_some_pos]
  simp [htext]

/-- nothing is blank without the blank variables -/
theorem filter_withoutBlanks (lookup : String → Option String) (name : String) :
    (withoutBlanks lookup name).filter (fun v => !isBlankText v) = withoutBlanks lookup name := by
  rw [withoutBlanks, Option.filter_filter]
  simp only [Bool.and_self]

/-- a number is read past a blank -/
theorem numberIn_withoutBlanks {α : Type} (lookup : String → Option String) (name : String) (read : String → Option α) :
    numberIn (withoutBlanks lookup) name read = numberIn lookup name read := by
  unfold numberIn
  cases hset : lookup name with
  | none => rw [withoutBlanks, hset, Option.filter_none]
  | some raw =>
    cases hblank : isBlankText raw with
    | false => simp only [withoutBlanks_of_text hset hblank, hblank]
    | true => simp only [withoutBlanks_of_blank hset hblank, hblank, if_true]

/-! ## The address -/

/-- what the settings take for the database's address -/
def foundAddress (lookup : String → Option String) : Option String :=
  ((lookup "DATABASE_URL").or (lookup "EQUIFLUX_DATABASE_URL")).filter fun v => !isBlankText v

theorem foundAddress_of_blank {blank : String} (h : lookup "DATABASE_URL" = some blank) (hblank : isBlankText blank = true) :
    foundAddress lookup = none := by
  rw [foundAddress, h, Option.some_or, Option.filter_some_neg]
  simp [hblank]

/-- an address is found unless it is hidden -/
theorem foundAddress_eq_address_iff : foundAddress lookup = address lookup ↔ ¬ AddressHidden lookup := by
  cases hfirst : lookup "DATABASE_URL" with
  | none =>
    have haddress : foundAddress lookup = address lookup := by
      simp only [foundAddress, address, withoutBlanks, hfirst, Option.none_or, Option.filter_none]
    refine ⟨fun _ hhidden => ?_, fun _ => haddress⟩
    obtain ⟨⟨blank, hset, -⟩, -⟩ := hhidden
    rw [hfirst] at hset
    cases hset
  | some first =>
    cases hblank : isBlankText first with
    | false =>
      have haddress : foundAddress lookup = address lookup := by
        rw [address, withoutBlanks_of_text hfirst hblank, foundAddress, hfirst, Option.some_or, Option.some_or,
          Option.filter_some_pos]
        simp [hblank]
      refine ⟨fun _ hhidden => ?_, fun _ => haddress⟩
      obtain ⟨⟨blank, hset, hblank'⟩, -⟩ := hhidden
      cases hfirst.symm.trans hset
      rw [hblank] at hblank'
      cases hblank'
    | true =>
      rw [foundAddress_of_blank hfirst hblank, address, withoutBlanks_of_blank hfirst hblank, Option.none_or, eq_comm]
      constructor
      · rintro hnone ⟨-, url, hset, htext⟩
        rw [withoutBlanks_of_text hset htext] at hnone
        cases hnone
      · intro hhidden
        rw [withoutBlanks, Option.filter_eq_none_iff]
        intro url hset htext
        exact hhidden ⟨⟨first, hfirst, hblank⟩, url, hset, by simpa using htext⟩

/-- without the blank variables the first address that is not blank is found -/
theorem foundAddress_withoutBlanks (lookup : String → Option String) : foundAddress (withoutBlanks lookup) = address lookup := by
  unfold foundAddress address
  cases hfirst : withoutBlanks lookup "DATABASE_URL" with
  | none => exact filter_withoutBlanks lookup _
  | some url =>
    rw [Option.some_or, ← hfirst]
    exact filter_withoutBlanks lookup _

/-! ## All settings -/

def withAddress (s : Settings) (url : Option String) : Settings :=
  { s with databaseUrl := url }

/-- settings are checked for a window and a connection, and stay as they are -/
theorem check_eq_ok_iff {t : Settings} : s.check = .ok t ↔ (0 < s.defaultWindowHours ∧ 0 < s.maxConnections) ∧ t = s := by
  unfold check
  split
  · rename_i hwindow
    simp [Int.not_lt.2 hwindow]
  split
  · rename_i hconnections
    simp [hconnections]
  · rename_i hwindow hconnections
    simp [Int.not_le.1 hwindow, Nat.pos_of_ne_zero hconnections, eq_comm]

/-- the check does not look at the address -/
theorem check_withAddress (s : Settings) (url : Option String) :
    (s.withAddress url).check = s.check.map fun s => s.withAddress url := by
  unfold check withAddress
  by_cases hwindow : s.defaultWindowHours ≤ 0
  · simp only [hwindow, if_true]
    rfl
  by_cases hconnections : s.maxConnections = 0
  · simp only [hwindow, hconnections, if_true, if_false]
    rfl
  · simp only [hwindow, hconnections, if_false]
    rfl

/-- the settings of what has been read: the numbers, if they are set, and the texts -/
def assembled (lookup : String → Option String) (ttl : Option Nat) (window : Option Int) (connections : Option Nat) :
    Settings where
  cacheTtlHours := ttl.getD 24
  defaultWindowHours := window.getD 24
  supportContact := (withoutBlanks lookup "EQUIFLUX_SUPPORT_CONTACT").getD "equipment data support"
  databaseUrl := foundAddress lookup
  maxConnections := connections.getD 5

theorem ofVariables_eq (lookup : String → Option String) : ofVariables lookup = (do
    let ttl ← numberIn lookup "EQUIFLUX_CACHE_TTL_HOURS" (readNatUpTo greatestNat64)
    let window ← numberIn lookup "EQUIFLUX_DEFAULT_WINDOW_HOURS" (readIntWithin leastInt64 greatestInt64)
    let connections ← numberIn lookup "EQUIFLUX_MAX_CONNECTIONS" (readNatUpTo greatestNat32)
    (assembled lookup ttl window connections).check) :=
  rfl

theorem assembled_withoutBlanks (lookup : String → Option String) (ttl : Option Nat) (window : Option Int)
    (connections : Option Nat) :
    assembled (withoutBlanks lookup) ttl window connections =
      (assembled lookup ttl window connections).withAddress (address lookup) := by
  have hcontact : withoutBlanks (withoutBlanks lookup) "EQUIFLUX_SUPPORT_CONTACT" =
      withoutBlanks lookup "EQUIFLUX_SUPPORT_CONTACT" := filter_withoutBlanks lookup _
  rw [assembled, hcontact, foundAddress_withoutBlanks]
  rfl

/-- loading takes the address that is found -/
theorem databaseUrl_of_ofVariables (h : ofVariables lookup = .ok s) : s.databaseUrl = foundAddress lookup := by
  rw [ofVariables_eq] at h
  obtain ⟨ttl, -, h⟩ := bind_eq_ok_iff.1 h
  obtain ⟨window, -, h⟩ := bind_eq_ok_iff.1 h
  obtain ⟨connections, -, h⟩ := bind_eq_ok_iff.1 h
  obtain ⟨-, rfl⟩ := check_eq_ok_iff.1 h
  rfl

/-- without the blank variables the settings are the same, up to the database's address: that is the first one -/
theorem ofVariables_withoutBlanks (lookup : String → Option String) :
    ofVariables (withoutBlanks lookup) = (ofVariables lookup).map fun s => s.withAddress (address lookup) := by
  rw [ofVariables_eq, ofVariables_eq]
  simp only [numberIn_withoutBlanks, assembled_withoutBlanks, check_withAddress]
  rcases numberIn lookup "EQUIFLUX_CACHE_TTL_HOURS" _ with e | ttl
  · rfl
  rcases numberIn lookup "EQUIFLUX_DEFAULT_WINDOW_HOURS" _ with e | window
  · rfl
  rcases numberIn lookup "EQUIFLUX_MAX_CONNECTIONS" _ with e | connections <;> rfl

theorem withAddress_eq_self_iff {url : Option String} : s.withAddress url = s ↔ s.databaseUrl = url := by
  constructor
  · intro h
    rw [← h]
    rfl
  · rintro rfl
    rfl

/-- **When blank variables count as not set.** Take any environment. Without its blank variables it is refused with the same
failure, or gives the same settings but for the database's address, which is then the one under the first of its two names that
is not blank. So settings or failure are the same as without the blank variables exactly unless the environment is accepted
while the database's first name is set to a blank and an address is under its second one. -/
theorem blank_variables (lookup : String → Option String) :
    (ofVariables (withoutBlanks lookup) = ofVariables lookup ↔
      ¬ (AddressHidden lookup ∧ ∃ s, ofVariables lookup = .ok s)) ∧
    (∀ e, ofVariables (withoutBlanks lookup) = .error e ↔ ofVariables lookup = .error e) ∧
    ∀ s, ofVariables lookup = .ok s →
      ofVariables (withoutBlanks lookup) = .ok { s with databaseUrl := address lookup } ∧
        (s.databaseUrl = address lookup ↔ ¬ AddressHidden lookup) := by
  have hwithout := ofVariables_withoutBlanks lookup
  have hfound (s : Settings) (hs : ofVariables lookup = .ok s) : s.databaseUrl = address lookup ↔ ¬ AddressHidden lookup := by
    rw [databaseUrl_of_ofVariables hs, foundAddress_eq_address_iff]
  refine ⟨?_, fun e => ?_, fun s hs => ⟨?_, hfound s hs⟩⟩
  · cases hloaded : ofVariables lookup with
    | error e =>
      rw [hloaded] at hwithout
      refine ⟨fun _ hhidden => ?_, fun _ => hwithout⟩
      obtain ⟨-, s, hs⟩ := hhidden
      cases hs
    | ok s =>
      have hsame : ofVariables (withoutBlanks lookup) = .ok s ↔ ¬ AddressHidden lookup := by
        rw [hwithout, hloaded, ← hfound s hloaded, ← withAddress_eq_self_iff]
        exact ⟨Except.ok.inj, congrArg _⟩
      rw [hsame, not_and]
      exact ⟨fun h hhidden => absurd hhidden h, fun h hhidden => h hhidden ⟨s, rfl⟩⟩
  · rw [hwithout, map_eq_error_iff]
  · rw [hwithout, hs]
    rfl

/-- an environment in which the first name of the database is left blank, and the second one is used -/
def secondAddress (name : String) : Option String :=
  [("DATABASE_URL", " "), ("EQUIFLUX_DATABASE_URL", "postgres://db/plant")].lookup name

/-- the blank hides the address: there is a database without it, and none with it -/
theorem hidden_address :
    secondAddress "DATABASE_URL" = some " " ∧ isBlankText " " = true ∧ ofVariables secondAddress = .ok {} ∧
      ofVariables (withoutBlanks secondAddress) = .ok { databaseUrl := some "postgres://db/plant" } ∧
      ofVariables (withoutBlanks secondAddress) ≠ ofVariables secondAddress := by
  have hwith : ofVariables secondAddress = .ok {} := rfl
  have hwithout : ofVariables (withoutBlanks secondAddress) = .ok { databaseUrl := some "postgres://db/plant" } := rfl
  refine ⟨rfl, rfl, hwith, hwithout, fun hsame => ?_⟩
  rw [hwith, hwithout] at hsame
  cases hsame

end Telemetry.Settings
