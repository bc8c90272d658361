/-
Finite 64-bit binary floating point numbers, held exactly.

A number is ± significand · 2 ^ exponent. `ofRatio` rounds a quotient of natural numbers to the nearest such number, a tie
going to the even significand; there is no result where the quotient is beyond the largest finite number. Significands of
normal numbers lie in [2^52, 2^53), smaller ones only occur with the least exponent, so each number other than zero has
one representation.
-/
namespace Telemetry.Decimal

/-- ± significand · 2 ^ exponent -/
structure Binary64 where
  negative : Bool
  significand : Nat
  exponent : Int
  deriving DecidableEq, Repr

namespace Binary64

/-- the exponent of the subnormal numbers and of zero -/
def leastExponent : Int := -1074

/-- the exponent of the largest finite numbers -/
def greatestExponent : Int := 971

def signedZero (negative : Bool) : Binary64 :=
  ⟨negative, 0, leastExponent⟩

/-- the quotient of two natural numbers, rounded to the nearest natural number, a half going to the even neighbour -/
def divideToEven (n d : Nat) : Nat :=
  let q := n / d
  let r := n % d
  if 2 * r > d ∨ (2 * r = d ∧ q % 2 = 1) then q + 1 else q

/-- numerator and denominator of `n / d · 2 ^ (-e)` -/
def shiftedRatio (n d : Nat) (e : Int) : Nat × Nat :=
  (n * Nat.pow 2 (-e).toNat, d * Nat.pow 2 e.toNat)

/-- the exponent at which the quotient's significand has 53 bits, or the least exponent if that is greater -/
def exponentFor (n d : Nat) : Int :=
  let guess : Int := (n.log2 : Int) - d.log2 - 52
  let (a, b) := shiftedRatio n d guess
  max leastExponent (if a < b * Nat.pow 2 52 then guess - 1 else guess)

/-- the number nearest to ± n / d, if it is finite -/
def ofRatio (negative : Bool) (n d : Nat) : Option Binary64 :=
  if n = 0 then some (signedZero negative)
  else
    let e := exponentFor n d
    let (a, b) := shiftedRatio n d e
    let m := divideToEven a b
    let (m, e) := if m = Nat.pow 2 53 then (Nat.pow 2 52, e + 1) else (m, e)
    if e > greatestExponent then none else some ⟨negative, m, e⟩

/-- the number nearest to ± digits · 10 ^ power, if it is finite; `count` is the number of digits

Powers of ten far outside the range are settled by the position of the leading digit. -/
def ofDecimal (negative : Bool) (digits count : Nat) (power : Int) : Option Binary64 :=
  if digits = 0 then some (signedZero negative)
  else if power > 400 then none
  else if power + count < -400 then some (signedZero negative)
  else ofRatio negative (digits * Nat.pow 10 power.toNat) (Nat.pow 10 (-power).toNat)

def largest : Binary64 :=
  ⟨false, Nat.pow 2 53 - 1, greatestExponent⟩

/-- the number nearest to an integer; the largest one stands for integers beyond it -/
def ofInt (i : Int) : Binary64 :=
  (ofRatio (i < 0) i.natAbs 1).getD { largest with negative := i < 0 }

end Binary64

end Telemetry.Decimal
