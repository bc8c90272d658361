import Telemetry.Decimal.Numeral
import Telemetry.Text.Character
import Telemetry.Text.Cut
/-
Numerical host addresses.

An address of version 6 is eight groups of up to four hexadecimal digits. Two colons stand for one or more groups of zero,
once at most, and a dotted quad may stand for the last two. An address of version 4 is a dotted quad; `isIpv4` also takes
fewer parts, and parts in octal and hexadecimal.
-/
namespace Telemetry.Address

open Text

/-! ## Version 6 -/

/-- up to 255 in decimal, without leading zeros -/
def isQuadPart (cs : List Char) : Bool :=
  !cs.isEmpty && cs.length ≤ 3 && cs.all isAsciiDigit && (cs.length == 1 || cs.head? != some '0') &&
    Decimal.digitsValue cs ≤ 255

/-- four parts with points between -/
def isDottedQuad (cs : List Char) : Bool :=
  let parts := cutAt '.' cs
  parts.length == 4 && parts.all isQuadPart

def isGroup (cs : List Char) : Bool :=
  !cs.isEmpty && cs.length ≤ 4 && cs.all fun c => (hexValue? c).isSome

/-- how many groups parts are, a dotted quad at their end counting for two where it is allowed -/
def countGroups? (quad : Bool) : List (List Char) → Option Nat
  | [] => some 0
  | [part] => if isGroup part then some 1 else if quad && isDottedQuad part then some 2 else none
  | part :: parts => if isGroup part then (countGroups? quad parts).map (· + 1) else none

/-- how many groups are written with colons between -/
def groups? (quad : Bool) (cs : List Char) : Option Nat :=
  if cs.isEmpty then some 0 else countGroups? quad (cutAt ':' cs)

/-- what stands before and after the first two colons in a row -/
def cutAtDoubleColon : List Char → Option (List Char × List Char)
  | ':' :: ':' :: cs => some ([], cs)
  | c :: cs => (cutAtDoubleColon cs).map fun (before, after) => (c :: before, after)
  | [] => none

def isIpv6 (cs : List Char) : Bool :=
  match cutAtDoubleColon cs with
  | none => groups? true cs == some 8
  | some (before, after) =>
    match groups? false before, groups? true after with
    | some m, some n => m + n ≤ 7
    | _, _ => false

/-! ## Version 4 -/

/-- a number and its base: hexadecimal after `0x`, octal after another zero, else decimal -/
def basedDigits : List Char → Nat × List Char
  | '0' :: 'x' :: cs => (16, cs)
  | '0' :: 'X' :: cs => (16, cs)
  | '0' :: c :: cs => (8, c :: cs)
  | cs => (10, cs)

/-- the value of a part; a base alone is zero -/
def part? (cs : List Char) : Option Nat :=
  if cs.isEmpty then none
  else
    let (base, digits) := basedDigits cs
    digits.foldlM (fun n c => (hexValue? c).bind fun d => if d < base then some (base * n + d) else none) 0

/-- the parts of a name, one point at its end left aside -/
def nameParts (cs : List Char) : List (List Char) :=
  let parts := cutAt '.' cs
  if parts.length > 1 && parts.getLast? == some [] then parts.dropLast else parts

/-- the last part is a number, so that the name is to be an address of version 4 -/
def endsInNumber (cs : List Char) : Bool :=
  match (nameParts cs).getLast? with
  | none => false
  | some [] => false
  | some part => part.all isAsciiDigit || (part? part).isSome

/-- parts that make an address: each but the last fits eight bits, the last one the bits that are left -/
def fitsParts (bits : Nat) : List Nat → Bool
  | [] => false
  | [n] => n < Nat.pow 2 bits
  | n :: ns => n ≤ 255 && fitsParts (bits - 8) ns

/-- an address of version 4 of up to four parts -/
def isIpv4 (cs : List Char) : Bool :=
  let parts := nameParts cs
  parts.length ≤ 4 &&
    match parts.mapM part? with
    | some ns => fitsParts 32 ns
    | none => false

/-! ## Either -/

/-- a numerical address written in full -/
def isNumerical (cs : List Char) : Bool :=
  isDottedQuad cs || isIpv6 cs

end Telemetry.Address
