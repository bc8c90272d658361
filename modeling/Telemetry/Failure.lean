import Telemetry.Address.Fault
import Telemetry.Error
import Telemetry.Text.Cut
/-
Failures as an operator is told of them: a cause, and what was being done when it arose.

`Failure.during` adds what was being done around it. A report begins with the outermost text there is.
-/
namespace Telemetry

/-- why a command fails -/
inductive FailureCause where
  | service (error : ServiceError)
  | payload (error : Payload.ParserError)
  /-- a seed file that is no TOML of the wanted shape -/
  | malformedSeed
  /-- a file that is not there or is no text -/
  | unreadableFile
  /-- a database address that is refused before anything is sent to it -/
  | refusedAddress (fault : Address.Fault)
  /-- a database address that nothing is wrong with -/
  | unreachableDatabase
  /-- said in words only -/
  | words (text : String)
  deriving DecidableEq, Repr

def FailureCause.message : FailureCause → String
  | .service error => error.message
  | .payload error => error.message
  | .malformedSeed => "the file is not a seed file"
  | .unreadableFile => "the file cannot be read"
  | .refusedAddress fault => "database error: error with configuration: " ++ fault.message
  | .unreachableDatabase => "database error: the database cannot be reached"
  | .words text => text

/-- a cause and what was being done, outermost first -/
structure Failure where
  cause : FailureCause
  contexts : List String := []
  deriving DecidableEq, Repr

namespace Failure

/-- a failure of the service, with nothing around it -/
def ofService (e : ServiceError) : Failure := { cause := .service e }

/-- a refused payload, with nothing around it -/
def ofParser (e : Payload.ParserError) : Failure := { cause := .payload e }

def ofWords (text : String) : Failure := { cause := .words text }

/-- the failure with one more thing that was being done -/
def during (context : String) (f : Failure) : Failure :=
  { f with contexts := context :: f.contexts }

/-- all texts, outermost first -/
def texts (f : Failure) : List String :=
  f.contexts ++ [f.cause.message]

/-- causes, numbered if there are several -/
def causeLines : Nat → List String → List String
  | _, [] => []
  | n, text :: texts => s!"    {n}: {text}" :: causeLines (n + 1) texts

/-- what the error output tells of a failure: the outermost text, then what is behind it -/
def report (f : Failure) : String :=
  let lines := match f.texts with
    | [] => []
    | [text] => ["Error: " ++ text]
    | [text, cause] => ["Error: " ++ text, "", "Caused by:", "    " ++ cause]
    | text :: causes => ["Error: " ++ text, "", "Caused by:"] ++ causeLines 0 causes
  Text.joinWith "\n" lines ++ "\n"

end Failure

variable {α : Type}

/-- an answer of the service as an answer to an operator -/
def told (r : Except ServiceError α) : Except Failure α :=
  r.mapError .ofService

/-- the same answer, its failure with one more thing that was being done -/
def doing (context : String) (r : Except Failure α) : Except Failure α :=
  r.mapError (Failure.during context)

end Telemetry
