import Telemetry.Json.Reader
/-
Readers of typed values from JSON text.

A record is an object, or an array of its fields in declaration order. Members with unknown names are passed over without
being judged, a known name must not occur twice, and an array must not be longer than the record. An enumeration is its
variant's name, or an object with that name as its only member.
-/
namespace Telemetry.Json

open Decimal

/-- the fields of a record that were given, by name -/
abbrev Fields := List (String × Written)

/-- keeps the known members; the same known name twice is refused, as is a name that is no text -/
def knownMembers? (names : List String) : List (List Piece × Written) → Option Fields
  | [] => some []
  | (key, w) :: rest =>
    match text? key, knownMembers? names rest with
    | some name, some fields =>
      if names.contains name then
        if fields.any (·.1 == name) then none else some ((name, w) :: fields)
      else some fields
    | _, _ => none

namespace Written

/-- the fields of a record with these field names -/
def fields? (names : List String) : Written → Option Fields
  | .object members => knownMembers? names members
  | .array items => if items.length ≤ names.length then some (names.zip items) else none
  | _ => none

def string? : Written → Option String
  | .string pieces => text? pieces
  | _ => none

/-- an integer within bounds, both included; never a number with a point or an exponent -/
def int? (least greatest : Int) : Written → Option Int
  | .number n => match Number.ofNumeral? n with
    | some (.int i) => if least ≤ i ∧ i ≤ greatest then some i else none
    | _ => none
  | _ => none

/-- a signed integer of 64 bits -/
def int64? : Written → Option Int :=
  int? leastInt64 greatestInt64

/-- a natural number up to a bound -/
def natUpTo? (greatest : Nat) (w : Written) : Option Nat :=
  (w.int? 0 greatest).map Int.toNat

/-- a binary number, from an integer too -/
def binary64? : Written → Option Binary64
  | .number n => (Number.ofNumeral? n).map Number.toBinary64
  | _ => none

def list? {α : Type} (element : Written → Option α) : Written → Option (List α)
  | .array items => items.mapM element
  | _ => none

def nullable? {α : Type} (element : Written → Option α) : Written → Option (Option α)
  | .null => some none
  | w => (element w).map some

def variant? : Written → Option (String × Option Written)
  | .string pieces => (text? pieces).map (·, none)
  | .object [(key, w)] => (text? key).map (·, some w)
  | _ => none

/-- the name of a variant that carries nothing -/
def unitVariant? (w : Written) : Option String :=
  match w.variant? with
  | some (name, none) | some (name, some .null) => some name
  | _ => none

end Written

namespace Fields

variable {α : Type}

def required (fields : Fields) (name : String) (element : Written → Option α) : Option α :=
  (fields.lookup name).bind element

/-- a field that has a value when it is not given -/
def withDefault (fields : Fields) (name : String) (value : α) (element : Written → Option α) : Option α :=
  match fields.lookup name with
  | some w => element w
  | none => some value

end Fields

end Telemetry.Json
