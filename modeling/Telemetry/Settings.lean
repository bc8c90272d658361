import Telemetry.Decimal.Numeral
import Telemetry.Error
import Telemetry.Json.Typed
import Telemetry.Text.Character
import Telemetry.Toml.Document
import Telemetry.Toml.Value
/-
Settings of the service.

`Settings.ofVariables` reads them from environment variables: a variable that is not set or blank leaves the default. The
database has two names, of which the first one set counts even if it is blank. The window must be positive and at least one
connection allowed. `Settings.ofToml` reads them from a file and holds them to the same bounds; in JSON they are taken as
they stand.
-/
namespace Telemetry

open Decimal Text

/-- what can be configured -/
structure Settings where
  /-- how long the caches keep an entry -/
  cacheTtlHours : Nat := 24
  /-- the window of a read that names no period -/
  defaultWindowHours : Int := 24
  /-- named to whoever writes to a disabled mapping -/
  supportContact : String := "equipment data support"
  databaseUrl : Option String := none
  maxConnections : Nat := 5
  deriving DecidableEq, Repr

namespace Settings

/-- refuses settings the service cannot run with -/
def check (s : Settings) : Except ServiceError Settings :=
  if s.defaultWindowHours ≤ 0 then .error (.config "default_window_hours must be positive")
  else if s.maxConnections = 0 then .error (.config "max_connections must be at least 1")
  else .ok s

/-- a number in a variable, if the variable is set and not blank -/
def numberIn {α : Type} (lookup : String → Option String) (name : String) (read : String → Option α) :
    Except ServiceError (Option α) :=
  match lookup name with
  | none => .ok none
  | some raw =>
    if isBlankText raw then .ok none
    else
      match read (trim raw) with
      | some value => .ok (some value)
      | none => .error (.config s!"{name} has invalid value '{raw}'")

def variableNames : List String :=
  ["EQUIFLUX_CACHE_TTL_HOURS", "EQUIFLUX_DEFAULT_WINDOW_HOURS", "EQUIFLUX_SUPPORT_CONTACT", "DATABASE_URL",
    "EQUIFLUX_DATABASE_URL", "EQUIFLUX_MAX_CONNECTIONS"]

def ofVariables (lookup : String → Option String) : Except ServiceError Settings := do
  let base : Settings := {}
  let ttl ← numberIn lookup "EQUIFLUX_CACHE_TTL_HOURS" (readNatUpTo greatestNat64)
  let window ← numberIn lookup "EQUIFLUX_DEFAULT_WINDOW_HOURS" (readIntWithin leastInt64 greatestInt64)
  let contact := (lookup "EQUIFLUX_SUPPORT_CONTACT").filter fun v => !isBlankText v
  let url := ((lookup "DATABASE_URL").or (lookup "EQUIFLUX_DATABASE_URL")).filter fun v => !isBlankText v
  let connections ← numberIn lookup "EQUIFLUX_MAX_CONNECTIONS" (readNatUpTo greatestNat32)
  check {
    cacheTtlHours := ttl.getD base.cacheTtlHours
    defaultWindowHours := window.getD base.defaultWindowHours
    supportContact := contact.getD base.supportContact
    databaseUrl := url
    maxConnections := connections.getD base.maxConnections }

/-! ## In TOML -/

def ofEntries? (entries : List (String × Toml.Value)) : Option Settings := do
  let fields : Toml.Fields := ⟨false, entries⟩
  let base : Settings := {}
  let cacheTtlHours ← fields.withDefault "cache_ttl_hours" base.cacheTtlHours (Toml.Value.natUpTo? greatestNat64)
  let defaultWindowHours ←
    fields.withDefault "default_window_hours" base.defaultWindowHours (Toml.Value.int? leastInt64 greatestInt64)
  let supportContact ← fields.withDefault "support_contact" base.supportContact Toml.Value.string?
  let databaseUrl ← fields.optional "database_url" Toml.Value.string?
  let maxConnections ← fields.withDefault "max_connections" base.maxConnections (Toml.Value.natUpTo? greatestNat32)
  return { cacheTtlHours, defaultWindowHours, supportContact, databaseUrl, maxConnections }

def ofToml (content : String) : Except ServiceError Settings :=
  match (Toml.read content).bind ofEntries? with
  | some settings => settings.check
  | none => .error .malformedConfig

/-! ## In JSON -/

open Json

def ofJson? (w : Written) : Option Settings := do
  let fields ← w.fields? ["cache_ttl_hours", "default_window_hours", "support_contact", "database_url",
    "max_connections"]
  let base : Settings := {}
  let cacheTtlHours ← fields.withDefault "cache_ttl_hours" base.cacheTtlHours (Written.natUpTo? greatestNat64)
  let defaultWindowHours ← fields.withDefault "default_window_hours" base.defaultWindowHours Written.int64?
  let supportContact ← fields.withDefault "support_contact" base.supportContact Written.string?
  let databaseUrl ← fields.withDefault "database_url" none (Written.nullable? Written.string?)
  let maxConnections ← fields.withDefault "max_connections" base.maxConnections (Written.natUpTo? greatestNat32)
  return { cacheTtlHours, defaultWindowHours, supportContact, databaseUrl, maxConnections }

def toJson (s : Settings) : Value :=
  .record [("cache_ttl_hours", .ofNat s.cacheTtlHours), ("default_window_hours", .ofInt s.defaultWindowHours),
    ("support_contact", .string s.supportContact), ("database_url", .ofString? s.databaseUrl),
    ("max_connections", .ofNat s.maxConnections)]

end Settings

end Telemetry
