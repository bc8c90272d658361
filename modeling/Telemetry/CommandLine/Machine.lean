import Telemetry.Address.Options
import Telemetry.Environment
import Telemetry.Failure
import Telemetry.Settings
/-
What a tool sees of the machine it runs on: files and environment variables.

Nothing here speaks to a database. The tools ask for its address, judge it and go no further.
-/
namespace Telemetry.CommandLine

/-- the files that can be read, and the variables that are set -/
structure Machine where
  file : String → Option String
  environment : String → Option String

namespace Machine

def environmentFile : String := ".env"

/-- the variables, those of the environment file included -/
def effective (m : Machine) : String → Option String :=
  match m.file environmentFile with
  | some content => Environment.withFile m.environment content
  | none => m.environment

def settings (m : Machine) : Except ServiceError Settings :=
  Settings.ofVariables m.effective

/-- the settings, for a tool that cannot go on without them -/
def loadSettings (m : Machine) : Except Failure Settings :=
  doing "failed to load configuration" (told m.settings)

/-- the text of a file, for a tool that cannot go on without it -/
def read (m : Machine) (context path : String) : Except Failure String :=
  match m.file path with
  | some content => .ok content
  | none => .error { cause := .unreadableFile, contexts := [context ++ " " ++ path] }

end Machine

/-- why no database is reached: no address is given, the given one is refused, or nobody answers there -/
def databaseFailure (contexts : List String) (s : Settings) : Failure :=
  match s.databaseUrl with
  | none => .ofWords "DATABASE_URL (or EQUIFLUX_DATABASE_URL) must be set"
  | some address =>
    match Address.check address with
    | .error fault => { cause := .refusedAddress fault, contexts }
    | .ok () => { cause := .unreachableDatabase, contexts }

end Telemetry.CommandLine
