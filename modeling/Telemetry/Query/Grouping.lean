import Telemetry.Decimal.Notation
import Telemetry.Decimal.Numeral
import Telemetry.Error
import Telemetry.Text.Character
/-
Grouping by time: an interval and what to write for groups without points.

An interval is a run of one or more segments, each a count in decimal digits and a unit; `isInterval` scans it in one pass.
`GroupBy.new` keeps the trimmed interval and names the untrimmed one in its error. A blank fill means null.
-/
namespace Telemetry.Query

open Text

/-! ## Fill -/

/-- what stands for a group without points -/
inductive FillPolicy where
  | null | none | previous | linear
  | value (x : Decimal.Binary64)
  deriving DecidableEq, Repr

namespace FillPolicy

/-- the policy written: nothing, a keyword in any case, or a number -/
def read (s : String) : Except ServiceError FillPolicy :=
  let token := foldCase (trim s)
  if token = "" ∨ token = "null" then .ok .null
  else if token = "none" then .ok .none
  else if token = "previous" then .ok .previous
  else if token = "linear" then .ok .linear
  else
    match Decimal.readBinary64 (trim s) with
    | some x => .ok (.value x)
    | Option.none => .error (.invalidFillPolicy s)

def token : FillPolicy → String
  | .null => "null"
  | .none => "none"
  | .previous => "previous"
  | .linear => "linear"
  | .value x => String.ofList (x.text .positional)

end FillPolicy

/-! ## Intervals -/

/-- where a scan of an interval stands -/
inductive IntervalState where
  /-- before the first segment -/
  | start
  /-- inside a count -/
  | count
  /-- after the `n` of `ns` -/
  | nano
  /-- after an `m`, which may go on to `ms` -/
  | milli
  /-- after a complete segment -/
  | complete
  deriving DecidableEq, Repr

/-- the state after one more character; `none` when no interval goes on like this -/
def IntervalState.next (state : IntervalState) (c : Char) : Option IntervalState :=
  if isDecimalDigit c then
    match state with
    | .nano => none
    | _ => some .count
  else
    match state with
    | .count =>
      if c = 'n' then some .nano
      else if c = 'm' then some .milli
      else if c = 'u' ∨ c = 'µ' ∨ c = 's' ∨ c = 'h' ∨ c = 'd' ∨ c = 'w' then some .complete
      else none
    | .nano => if c = 's' then some .complete else none
    | .milli => if c = 's' then some .complete else none
    | _ => none

/-- an interval may end here -/
def IntervalState.isFinal : IntervalState → Bool
  | .milli | .complete => true
  | _ => false

/-- one or more segments, each a count and a unit -/
def isInterval (cs : List Char) : Bool :=
  match cs.foldlM IntervalState.next IntervalState.start with
  | some state => state.isFinal
  | none => false

/-! ## Grouping -/

/-- groups of one interval each -/
structure GroupBy where
  interval : String
  fill : FillPolicy
  deriving DecidableEq, Repr

namespace GroupBy

/-- the grouping by an interval, blanks around it aside -/
def new (interval : String) (fill : FillPolicy) : Except ServiceError GroupBy :=
  if isInterval (trim interval).toList then .ok ⟨trim interval, fill⟩ else .error (.invalidGroupInterval interval)

/-- the grouping by an interval with a fill as written, the fill read first -/
def read (interval : String) (fill : Option String) : Except ServiceError GroupBy := do
  let fill ← match fill with
    | some token => FillPolicy.read token
    | none => pure .null
  new interval fill

end GroupBy

end Telemetry.Query
