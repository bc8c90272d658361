import Telemetry.CommandLine.Administration
import Telemetry.CommandLine.Operator
/-
The tools as processes: what a run prints and how it ends.

A run ends with 0, with 1 after a failure, of which the error output tells, and with 2 when the command line is refused. The
administrator's tool and the one that only brings the schema up to date need the database for everything they do.
-/
namespace Telemetry.CommandLine

/-- the tools -/
inductive Tool where
  | operator | administration | migration
  deriving DecidableEq, Repr

/-- how a run ends -/
structure Exit where
  code : Nat
  output : String := ""
  errors : String := ""
  deriving DecidableEq, Repr

def UsageError.message : UsageError → String
  | .missingCommand => "a command must be given"
  | .unknownCommand => "unrecognized command"
  | .unknownArgument => "unexpected argument found"
  | .missingValue => "a value is required"
  | .wrongValueCount => "wrong number of values"
  | .unneededValue => "unexpected value for a flag"
  | .conflict => "arguments cannot be used together"
  | .missingArgument => "a required argument was not provided"
  | .helpAsked => "help"
  | .versionAsked => "version"

/-- texts about the tool are no failures -/
def UsageError.exit (e : UsageError) : Exit :=
  match e with
  | .helpAsked | .versionAsked => { code := 0 }
  | e => { code := 2, errors := "error: " ++ e.message ++ "\n" }

/-- how a run ends that prints something or fails -/
def exitOf : Except Failure String → Exit
  | .ok output => { code := 0, output }
  | .error f => { code := 1, errors := f.report }

/-- how a run ends that gets no further than the database -/
def exitAtDatabase (m : Machine) : Exit :=
  exitOf do
    let settings ← m.loadSettings
    .error (databaseFailure [] settings)

/-- the files that a command line has a tool read -/
def Tool.files (words : List String) : Tool → List String
  | .operator =>
    match readCommand operatorCommands words with
    | .error _ => []
    | .ok task => task.files
  | .administration | .migration => []

def Tool.run (m : Machine) (words : List String) : Tool → Exit
  | .operator =>
    match readCommand operatorCommands words with
    | .error e => e.exit
    | .ok task => exitOf (task.run m)
  | .administration =>
    match readCommand administrationCommands words with
    | .error e => e.exit
    | .ok _ => exitAtDatabase m
  | .migration => exitAtDatabase m

end Telemetry.CommandLine
