import Mathlib.Algebra.GroupWithZero.Nat
import Mathlib.Data.List.Induction
import Mathlib.Data.List.TakeWhile
import Telemetry.Decimal.Notation
import Telemetry.Decimal.Numeral
import Telemetry.Text.Character
/-
Digits and the numbers they denote.

Numbers are read from ASCII digits alone. The digits of other scripts are digits as well, and no digit of any script is a
blank.

- `digitsValue_append`, `Denotes.lt`: numbers put together from digits;
- `denotes_digitsOf`: the digits of a number denote it;
- `readInt_digitsOf`: and it is read from them.
-/
namespace Telemetry

namespace Text

variable {c : Char}

theorem isDecimalDigit_of_isAsciiDigit (h : isAsciiDigit c = true) : isDecimalDigit c = true := by
  have hrange : '0'.toNat ≤ c.toNat ∧ c.toNat ≤ '9'.toNat := by
    simpa [isAsciiDigit, Char.le_def, UInt32.le_iff_toNat_le] using h
  refine List.any_eq_true.2 ⟨0x30, by decide, ?_⟩
  simpa using hrange

/-- no digit of any script is a blank -/
theorem isBlank_of_isDecimalDigit (h : isDecimalDigit c = true) : isBlank c = false := by
  have hall : ∀ z ∈ digitZeros, ∀ i < 10, isBlank (Char.ofNat (z + i)) = false := by decide +kernel
  obtain ⟨z, hz, hrange⟩ := List.any_eq_true.1 h
  simp only [Bool.and_eq_true, decide_eq_true_eq] at hrange
  have hdigit := hall z hz (c.toNat - z) (by omega)
  rwa [Nat.add_sub_cancel' hrange.1, Char.ofNat_toNat] at hdigit

end Text

namespace Decimal

open Text

variable {ds es : List Char} {n : Nat}

theorem digitsValue_append (ds es : List Char) :
    digitsValue (ds ++ es) = digitsValue ds * 10 ^ es.length + digitsValue es := by
  change Nat.ofDigitChars 10 (ds ++ es) 0 = Nat.ofDigitChars 10 ds 0 * _ + Nat.ofDigitChars 10 es 0
  rw [Nat.ofDigitChars_append, Nat.ofDigitChars_eq_ofDigitChars_zero, Nat.mul_comm]

theorem digitsValue_zeros (ds : List Char) (k : Nat) :
    digitsValue (ds ++ List.replicate k '0') = digitsValue ds * 10 ^ k := by
  have hzeros : digitsValue (List.replicate k '0') = 0 := Nat.ofDigitChars_replicate_zero
  rw [digitsValue_append, hzeros, List.length_replicate, Nat.add_zero]

/-! ## Numbers as they are read -/

/-- characters are ASCII digits and denote a number -/
structure Denotes (ds : List Char) (n : Nat) : Prop where
  digits : ∀ c ∈ ds, isAsciiDigit c = true
  value : digitsValue ds = n

theorem Denotes.lt (h : Denotes ds n) : n < 10 ^ ds.length := by
  rw [← h.value]
  have hdigits := h.digits
  clear h
  induction ds using List.reverseRecOn with
  | nil => decide
  | append_singleton ds d ih =>
    obtain ⟨hds, hd⟩ := List.forall_mem_append.1 hdigits
    have hlast : d.toNat ≤ '9'.toNat := by
      have hrange := hd d List.mem_cons_self
      simp only [isAsciiDigit, Bool.and_eq_true, decide_eq_true_eq, Char.le_def, UInt32.le_iff_toNat_le] at hrange
      exact hrange.2
    have hnine : digitsValue [d] ≤ 9 := by
      change 10 * 0 + (d.toNat - 48) ≤ 9
      have hcode : '9'.toNat = 57 := rfl
      omega
    have hrest := ih hds
    rw [digitsValue_append, List.length_append, List.length_singleton, Nat.pow_succ]
    omega

theorem isAsciiDigit_of_mem_digitsOf {c : Char} (h : c ∈ digitsOf n) : isAsciiDigit c = true := by
  have hdigit := Nat.isDigit_of_mem_toDigits (by decide) (by decide) h
  simpa [Char.isDigit, isAsciiDigit, Char.le_def] using hdigit

/-- the digits of a number denote it -/
theorem denotes_digitsOf (n : Nat) : Denotes (digitsOf n) n :=
  ⟨fun _ => isAsciiDigit_of_mem_digitsOf, Nat.ofDigitChars_ten_toDigits⟩

/-- digits are no sign -/
theorem takeSign_digitsOf (n : Nat) : takeSign (digitsOf n) = (false, digitsOf n) := by
  have hdigits := (denotes_digitsOf n).digits
  unfold takeSign
  split
  · rename_i cs hcs
    rw [hcs] at hdigits
    exact absurd (hdigits '-' List.mem_cons_self) (by decide)
  · rename_i cs hcs
    rw [hcs] at hdigits
    exact absurd (hdigits '+' List.mem_cons_self) (by decide)
  · rfl

/-- a number is read from its digits -/
theorem readInt_digitsOf (n : Nat) : readInt (String.ofList (digitsOf n)) = some (n : Int) := by
  have hdenotes := denotes_digitsOf n
  have hvalue := hdenotes.value
  have htake : takeDigits (digitsOf n) = (digitsOf n, []) := by
    rw [takeDigits, List.takeWhile_eq_self_iff.2 hdenotes.digits, List.dropWhile_eq_nil_iff.2 hdenotes.digits]
  rw [readInt, String.toList_ofList, takeSign_digitsOf]
  have hsome : digitsOf n ≠ [] := Nat.toDigits_ne_nil
  obtain ⟨c, cs, hchars⟩ := List.exists_cons_of_ne_nil hsome
  rw [hchars] at hvalue htake ⊢
  simp only [htake, hvalue]
  rfl

theorem isBlank_of_mem_digitsOf {c : Char} (h : c ∈ digitsOf n) : isBlank c = false :=
  isBlank_of_isDecimalDigit (isDecimalDigit_of_isAsciiDigit (isAsciiDigit_of_mem_digitsOf h))

end Decimal

end Telemetry
