import Telemetry.Decimal.Binary64
import Telemetry.Text.Character
/-
Decimal numerals: a sign, digits before and after an optional point, and an optional power of ten.

A `Numeral` keeps what was written, so that the reader of a type can tell `1` from `1.0`; its two meanings are the integer
it denotes, if it has neither point nor exponent, and the nearest binary number. Here are also the two ways to read a whole
text as a number, `readInt` for integers and `readBinary64` for fill values, and the bounds of integers of fixed width.
-/
namespace Telemetry.Decimal

/-- the least signed integer of 64 bits -/
def leastInt64 : Int := -9223372036854775808

/-- the greatest signed integer of 64 bits -/
def greatestInt64 : Int := 9223372036854775807

/-- the greatest natural number of 64 bits -/
def greatestNat64 : Nat := 18446744073709551615

/-- the greatest natural number of 32 bits -/
def greatestNat32 : Nat := 4294967295

/-- a number as written -/
structure Numeral where
  negative : Bool
  whole : List Char
  /-- the digits after the point, if there is one -/
  fraction : Option (List Char)
  /-- the power of ten, if one is written -/
  power : Option Int
  deriving DecidableEq, Repr

/-- the value of a run of ASCII digits -/
def digitsValue (ds : List Char) : Nat :=
  ds.foldl (fun n d => 10 * n + (d.toNat - 48)) 0

namespace Numeral

/-- the integer denoted, when neither a point nor an exponent is written -/
def toInt? (x : Numeral) : Option Int :=
  match x.fraction, x.power with
  | none, none =>
    let n : Int := digitsValue x.whole
    some (if x.negative then -n else n)
  | _, _ => none

/-- the nearest binary number, if it is finite -/
def toBinary64? (x : Numeral) : Option Binary64 :=
  let fraction := x.fraction.getD []
  let digits := x.whole ++ fraction
  Binary64.ofDecimal x.negative (digitsValue digits) digits.length (x.power.getD 0 - fraction.length)

end Numeral

/-- splits off the leading ASCII digits -/
def takeDigits (cs : List Char) : List Char × List Char :=
  (cs.takeWhile Text.isAsciiDigit, cs.dropWhile Text.isAsciiDigit)

/-- splits off a leading sign; `true` is minus -/
def takeSign : List Char → Bool × List Char
  | '-' :: cs => (true, cs)
  | '+' :: cs => (false, cs)
  | cs => (false, cs)

/-- an exponent part `e±digits`, or nothing; `none` if the digits are missing -/
def takePower : List Char → Option (Option Int × List Char)
  | c :: cs =>
    if c = 'e' ∨ c = 'E' then
      let (negative, cs) := takeSign cs
      match takeDigits cs with
      | ([], _) => none
      | (ds, rest) =>
        let n : Int := digitsValue ds
        some (some (if negative then -n else n), rest)
    else some (none, c :: cs)
  | [] => some (none, [])

/-- an integer: an optional sign and at least one digit, nothing else -/
def readInt (s : String) : Option Int :=
  let (negative, cs) := takeSign s.toList
  match takeDigits cs with
  | ([], _) => none
  | (ds, []) =>
    let n : Int := digitsValue ds
    some (if negative then -n else n)
  | _ => none

/-- an integer within bounds, both included -/
def readIntWithin (least greatest : Int) (s : String) : Option Int :=
  (readInt s).filter fun n => least ≤ n ∧ n ≤ greatest

/-- a natural number up to a bound; a minus sign is refused even before zero -/
def readNatUpTo (greatest : Nat) (s : String) : Option Nat :=
  if s.toList.head? = some '-' then none
  else ((readInt s).map Int.toNat).filter (· ≤ greatest)

/-- a numeral with an optional sign, digits on at least one side of an optional point, and an optional exponent -/
def readNumeral (s : String) : Option Numeral :=
  let (negative, cs) := takeSign s.toList
  let (whole, cs) := takeDigits cs
  let (fraction, cs) := match cs with
    | '.' :: rest => let (ds, rest) := takeDigits rest; (some ds, rest)
    | _ => (none, cs)
  if whole.isEmpty && (fraction.getD []).isEmpty then none
  else
    match takePower cs with
    | some (power, []) => some ⟨negative, whole, fraction, power⟩
    | _ => none

/-- the binary number nearest to a numeral, if it is finite -/
def readBinary64 (s : String) : Option Binary64 :=
  (readNumeral s).bind Numeral.toBinary64?

end Telemetry.Decimal
