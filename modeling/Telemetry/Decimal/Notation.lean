import Telemetry.Decimal.Binary64
/-
Written forms of binary numbers, made from the shortest decimal that reads back to the number.

The reals that round to a number form an interval around it, whose ends belong to it when the significand is even. Among
the decimals with 1, 2, … 17 digits the first count with a member in the interval wins, and of two members of that count the
nearer one; when both are equally near, a `Tie` decides. `Scaled.digits` carries no leading zero and `point` is where the
decimal point goes: the value is 0.d₁d₂d₃… · 10 ^ point.

`Style.json` is the form of numbers in JSON text: positional for up to sixteen places before the point and four zeros after
it, with `.0` on integral numbers, and scientific beyond; a tie goes to the even digit. `Style.positional` never uses an
exponent and writes integral numbers without a point, and a tie goes away from zero; it is the form of fill values in query
text.
-/
namespace Telemetry.Decimal

/-! ## Shortest digits -/

/-- 0.digits · 10 ^ point, `digits` read as a decimal fraction -/
structure Scaled where
  digits : List Char
  point : Int
  deriving DecidableEq, Repr

/-- which of two equally near decimals is taken -/
inductive Tie where
  /-- the one whose last digit is even -/
  | toEven
  /-- the one farther from zero -/
  | away
  deriving DecidableEq, Repr

/-- the greater decimal is taken, given the smaller one of the two -/
def Tie.isUp (tie : Tie) (smaller : Nat) : Bool :=
  match tie with
  | .toEven => smaller % 2 = 1
  | .away => true

/-- the decimal digits of a natural number -/
def digitsOf (n : Nat) : List Char :=
  Nat.toDigits 10 n

/-- the power of ten just above the quotient: the least `p` with n / d < 10 ^ p -/
def leadingPower (n d : Nat) : Int :=
  if n ≥ d then (digitsOf (n / d)).length
  else
    let c := (d + n - 1) / n
    1 - ((digitsOf (c - 1)).length : Int)

namespace Binary64

/-- twice the half-width of the interval above and below, on the scale where the number itself is `4 · significand` -/
def gaps (x : Binary64) : Nat × Nat :=
  if x.significand = Nat.pow 2 52 ∧ x.exponent > leastExponent then (1, 2) else (2, 2)

/-- the candidate `c · 10 ^ power` rounds to the number -/
def readsBack (x : Binary64) (c : Nat) (power : Int) : Bool :=
  let (below, above) := x.gaps
  let middle := 4 * x.significand
  -- compare c · 10 ^ power with (middle ± gap) · 2 ^ (exponent - 2)
  let e := x.exponent - 2
  let left := c * Nat.pow 10 power.toNat * Nat.pow 2 (-e).toNat
  let scale := Nat.pow 10 (-power).toNat * Nat.pow 2 e.toNat
  let low := (middle - below) * scale
  let high := (middle + above) * scale
  if x.significand % 2 = 0 then low ≤ left && left ≤ high else low < left && left < high

/-- the number as a quotient, sign left out -/
def ratio (x : Binary64) : Nat × Nat :=
  (x.significand * Nat.pow 2 x.exponent.toNat, Nat.pow 2 (-x.exponent).toNat)

/-- the decimal of `count` digits nearest to the number among its two neighbours that read back -/
def nearestOfCount (tie : Tie) (x : Binary64) (count : Nat) : Option (Nat × Int) :=
  let (n, d) := x.ratio
  let power := leadingPower n d - count
  let a := n * Nat.pow 10 (-power).toNat
  let b := d * Nat.pow 10 power.toNat
  let floor := a / b
  let up := b < 2 * (a % b) || (2 * (a % b) = b && tie.isUp floor)
  let nearer := if up then floor + 1 else floor
  let other := if up then floor else floor + 1
  if x.readsBack nearer power then some (nearer, power)
  else if x.readsBack other power then some (other, power)
  else none

/-- the first digit count, from `count` on, with a decimal that reads back -/
def firstReadingBack (tie : Tie) (x : Binary64) : Nat → Nat → Option (Nat × Int)
  | _, 0 => none
  | count, more + 1 =>
    match x.nearestOfCount tie count with
    | some found => some found
    | none => firstReadingBack tie x (count + 1) more

/-- digits without the zeros at the end -/
def withoutTrailingZeros (ds : List Char) : List Char :=
  (ds.reverse.dropWhile (· == '0')).reverse

/-- the shortest decimal that reads back, sign left out; zero has the single digit 0 -/
def shortest (tie : Tie) (x : Binary64) : Scaled :=
  if x.significand = 0 then ⟨['0'], 1⟩
  else
    match x.firstReadingBack tie 1 17 with
    | some (c, power) =>
      let ds := digitsOf c
      ⟨withoutTrailingZeros ds, ds.length + power⟩
    | none => ⟨['0'], 1⟩

end Binary64

/-! ## Styles -/

/-- how ties go, when to write an exponent, and what integral numbers end in -/
structure Style where
  tie : Tie
  /-- positional when the point lies strictly above this place … -/
  pointAbove : Option Int
  /-- … and not above this one -/
  pointUpTo : Option Int
  integralEnd : List Char

/-- numbers in JSON text -/
def Style.json : Style := ⟨.toEven, some (-5), some 16, ['.', '0']⟩

/-- numbers in query text -/
def Style.positional : Style := ⟨.away, none, none, []⟩

/-- whether the style writes a number with its point at this place without an exponent -/
def Style.isPositional (style : Style) (point : Int) : Bool :=
  (match style.pointAbove with | some p => decide (p < point) | none => true) &&
    (match style.pointUpTo with | some p => decide (point ≤ p) | none => true)

/-- digits with a point inserted, zeros filling the places up to it -/
def positionalText (style : Style) (x : Scaled) : List Char :=
  if x.point ≤ 0 then ['0', '.'] ++ List.replicate (-x.point).toNat '0' ++ x.digits
  else
    let p := x.point.toNat
    if x.digits.length ≤ p then x.digits ++ List.replicate (p - x.digits.length) '0' ++ style.integralEnd
    else x.digits.take p ++ ['.'] ++ x.digits.drop p

/-- one digit before the point and an exponent with its sign -/
def scientificText (x : Scaled) : List Char :=
  let e := x.point - 1
  let mantissa := match x.digits with
    | [] => ['0']
    | [d] => [d]
    | d :: ds => d :: '.' :: ds
  mantissa ++ ['e', if e < 0 then '-' else '+'] ++ digitsOf e.natAbs

/-- the written form of a number in a style -/
def Binary64.text (style : Style) (x : Binary64) : List Char :=
  let s := x.shortest style.tie
  let body := if style.isPositional s.point then positionalText style s else scientificText s
  if x.negative then '-' :: body else body

end Telemetry.Decimal
