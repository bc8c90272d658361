import Telemetry.Decimal.Binary64
/-
TOML values, and readers of typed values from them.

Of a date-time nothing but its presence is kept, and of a float nothing either: no setting and no seed is made of them. A
record is a table, or an array of its fields in declaration order; unknown keys and further elements are passed over.
-/
namespace Telemetry.Toml

/-- a TOML value -/
inductive Value where
  | string (s : String)
  /-- a signed integer of 64 bits -/
  | integer (i : Int)
  | float
  | boolean (b : Bool)
  | dateTime
  | array (items : List Value)
  | table (entries : List (String × Value))
  deriving Repr

instance : Inhabited Value := ⟨.dateTime⟩

/-! ## Typed values -/

/-- the fields of a record that were given -/
structure Fields where
  /-- given as an array, in which no field can be left out -/
  positional : Bool
  given : List (String × Value)

namespace Value

/-- the fields of a record with these field names -/
def fields? (names : List String) : Value → Option Fields
  | .table entries => some ⟨false, entries⟩
  | .array items => some ⟨true, names.zip items⟩
  | _ => none

def string? : Value → Option String
  | .string s => some s
  | _ => none

/-- an integer within bounds, both included -/
def int? (least greatest : Int) : Value → Option Int
  | .integer i => if least ≤ i ∧ i ≤ greatest then some i else none
  | _ => none

/-- a natural number up to a bound -/
def natUpTo? (greatest : Nat) (v : Value) : Option Nat :=
  (v.int? 0 greatest).map Int.toNat

def list? {α : Type} (element : Value → Option α) : Value → Option (List α)
  | .array items => items.mapM element
  | _ => none

end Value

namespace Fields

variable {α : Type}

def required (fields : Fields) (name : String) (element : Value → Option α) : Option α :=
  (fields.given.lookup name).bind element

/-- a field that may be left out of a table -/
def optional (fields : Fields) (name : String) (element : Value → Option α) : Option (Option α) :=
  match fields.given.lookup name with
  | some v => (element v).map some
  | none => if fields.positional then none else some none

/-- a field that has a value when it is not given -/
def withDefault (fields : Fields) (name : String) (value : α) (element : Value → Option α) : Option α :=
  match fields.given.lookup name with
  | some v => element v
  | none => some value

end Fields

end Telemetry.Toml
