import Telemetry.Text.Character
import Telemetry.Text.Cut
/-
Labels of a host name in Punycode.

Before the last hyphen stand the ASCII characters of the label, after it numbers that tell where each other character is
inserted. A number is written with digits of a base of 36, lowest first, and a threshold tells for each digit whether the
number goes on; the thresholds follow a bias that adapts to the numbers before.
-/
namespace Telemetry.Address.Punycode

/-- the value of a digit: letters, then decimal digits -/
def digit? (c : Char) : Option Nat :=
  if 'a' ≤ c ∧ c ≤ 'z' then some (c.toNat - 97)
  else if 'A' ≤ c ∧ c ≤ 'Z' then some (c.toNat - 65)
  else if Text.isAsciiDigit c then some (c.toNat - 22)
  else none

/-- below this a digit is the last one of its number -/
def threshold (position bias : Nat) : Nat :=
  min 26 (max 1 (position - bias))

/-- a number, and the digits behind it -/
def number? (bias : Nat) : Nat → Nat → Nat → List Char → Option (Nat × List Char)
  | _, _, _, [] => none
  | position, weight, sum, c :: cs =>
    match digit? c with
    | none => none
    | some d =>
      let sum := sum + d * weight
      let t := threshold position bias
      if d < t then some (sum, cs) else number? bias (position + 36) (weight * (36 - t)) sum cs

theorem number?_length {bias position weight sum n : Nat} {cs rest : List Char}
    (h : number? bias position weight sum cs = some (n, rest)) : rest.length < cs.length := by
  induction cs generalizing position weight sum with
  | nil => simp [number?] at h
  | cons c cs ih =>
    unfold number? at h
    split at h
    · simp at h
    · simp only at h
      split at h
      · simp only [Option.some.injEq, Prod.mk.injEq] at h
        simp [h.2]
      · exact Nat.lt_succ_of_lt (ih h)

/-- the bias from a number that is scaled down step by step -/
def biasOf (scaled position : Nat) : Nat :=
  if scaled ≤ 455 then position + 36 * scaled / (scaled + 38) else biasOf (scaled / 35) (position + 36)
  termination_by scaled
  decreasing_by omega

/-- the bias after a number: `count` characters are there now -/
def adapted (number count : Nat) (first : Bool) : Nat :=
  let scaled := number / (if first then 700 else 2)
  biasOf (scaled + scaled / count) 0

/-- the characters after all insertions; `point` is the code point and `index` the place that a number counts from -/
def inserted? (bias point index : Nat) (label : List Char) (first : Bool) : List Char → Option (List Char)
  | [] => some label
  | c :: cs =>
    match _read : number? bias 36 1 index (c :: cs) with
    | none => none
    | some (sum, rest) =>
      let count := label.length + 1
      let point := point + sum / count
      if point.isValidChar then
        inserted? (adapted (sum - index) count first) point (sum % count + 1)
          (label.insertIdx (sum % count) (Char.ofNat point)) false rest
      else none
  termination_by digits => digits.length
  decreasing_by exact number?_length _read

/-- the ASCII characters and the digits; a hyphen with nothing before it is no digit and is left where it is -/
def parts (cs : List Char) : List Char × List Char :=
  match Text.cutAtLast? '-' cs with
  | some (c :: ascii, digits) => (c :: ascii, digits)
  | _ => ([], cs)

/-- the label behind a text of ASCII characters -/
def decode? (cs : List Char) : Option (List Char) :=
  let (ascii, digits) := parts cs
  if ascii.all (·.toNat < 128) then inserted? 72 128 0 ascii true digits else none

end Telemetry.Address.Punycode
