import Telemetry.Channel.Definition
import Telemetry.Collections
/-
Stored channel definitions, a list in the order they were first stored.

`upsert` replaces the definition with the same id or appends, and needs an id. It does not look at codes: that codes differ
is the catalog's doing.
-/
namespace Telemetry.Channel

/-- which definitions are meant -/
inductive Filter where
  | code (code : String)
  | codes (codes : List String)
  | equipmentCode (code : String)
  | all
  deriving DecidableEq, Repr

def Filter.accepts : Filter → Definition → Bool
  | .code wanted, d => d.code == wanted
  | .codes wanted, d => wanted.contains d.code
  | .equipmentCode wanted, d => d.equipmentCodes.contains wanted
  | .all, _ => true

abbrev Store := List Definition

namespace Store

def get? (s : Store) (filter : Filter) : Option Definition :=
  s.find? filter.accepts

/-- all definitions meant, in order -/
def select (s : Store) (filter : Filter) : List Definition :=
  s.filter filter.accepts

def upsert (s : Store) (d : Definition) : Except RepositoryError Store :=
  match d.id with
  | none => .error (.missingId d.code)
  | some id => .ok (putRecord (fun old => old.id == some id) d s)

/-- the store without the definitions meant -/
def delete (s : Store) (filter : Filter) : Store :=
  s.filter fun d => !filter.accepts d

end Store

end Telemetry.Channel
