import Telemetry.Collections
import Telemetry.Decimal.Numeral
/-
JSON values.

An integer is kept as an integer when it fits 64 bits (unsigned, or signed if negative); every other number is a finite
binary number. `-0` is the number minus zero. The members of an object are a map in ascending key order.
-/
namespace Telemetry.Json

open Decimal

/-- an integer of 64 bits or a finite binary number -/
inductive Number where
  | int (i : Int)
  | float (x : Binary64)
  deriving DecidableEq, Repr

/-- a JSON value -/
inductive Value where
  | null
  | bool (b : Bool)
  | number (n : Number)
  | string (s : String)
  | array (items : List Value)
  | object (members : List (String × Value))
  deriving Repr

instance : Inhabited Value := ⟨.null⟩

namespace Number

/-- the number a numeral denotes, if it is in range -/
def ofNumeral? (x : Numeral) : Option Number :=
  match x.toInt? with
  | some i =>
    if (x.negative ∧ i = 0) ∨ i < leastInt64 ∨ greatestNat64 < i then x.toBinary64?.map .float
    else some (.int i)
  | none => x.toBinary64?.map .float

def toBinary64 : Number → Binary64
  | .int i => Binary64.ofInt i
  | .float x => x

end Number

namespace Value

def ofInt (i : Int) : Value := .number (.int i)

/-- a natural number value -/
def ofNat (n : Nat) : Value := .number (.int n)

def record (members : List (String × Value)) : Value :=
  .object (SortedMap.ofList members)

def ofString? : Option String → Value
  | some s => .string s
  | none => .null

def ofStrings (ss : List String) : Value :=
  .array (ss.map .string)

def items? : Value → Option (List Value)
  | .array items => some items
  | _ => none

def member? (key : String) : Value → Option Value
  | .object members => SortedMap.get? key members
  | _ => none

def string? : Value → Option String
  | .string s => some s
  | _ => none

def isNested : Value → Bool
  | .array _ | .object _ => true
  | _ => false

end Value

end Telemetry.Json
