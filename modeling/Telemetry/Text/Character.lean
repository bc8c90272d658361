/-
Characters: ranges of code points, blanks, the case of ASCII letters, and digits.

Blanks are the characters with the Unicode White_Space property; zero-width characters (U+200B, U+FEFF) and the separators
U+001C to U+001F are not blank. `trim` drops blanks at both ends, `isBlankText` asks whether nothing else is left, `words`
cuts a text into its blank-free runs. `sameIgnoringCase` is the comparison used for channel codes, units and keywords: ASCII
letters fold, every other character stands for itself. A decimal digit of any script has the Unicode general category Nd
(`isDecimalDigit`); numbers are read from the ten ASCII digits, or from hexadecimal ones (`hexNumber?`).
-/
namespace Telemetry.Text

/-! ## Ranges -/

/-- a range of code points, both ends included -/
abbrev CodeRange := Nat × Nat

/-- the character lies in one of the ranges -/
def inRanges (ranges : List CodeRange) (c : Char) : Bool :=
  ranges.any fun range => range.1 ≤ c.toNat && c.toNat ≤ range.2

/-! ## Blanks -/

/-- the White_Space property -/
def isBlank (c : Char) : Bool :=
  let n := c.toNat
  (9 ≤ n && n ≤ 13) || n == 0x20 || n == 0x85 || n == 0xA0 || n == 0x1680 || (0x2000 ≤ n && n ≤ 0x200A) ||
    n == 0x2028 || n == 0x2029 || n == 0x202F || n == 0x205F || n == 0x3000

/-- characters without the blanks at either end -/
def trimmed (cs : List Char) : List Char :=
  ((cs.dropWhile isBlank).reverse.dropWhile isBlank).reverse

/-- a text without the blanks at either end -/
def trim (s : String) : String :=
  String.ofList (trimmed s.toList)

/-- nothing but blanks, or nothing at all -/
def isBlankText (s : String) : Bool :=
  s.toList.all isBlank

/-- the runs still to come, after the characters of the open run (last one first) -/
def wordsAfter : List Char → List Char → List (List Char)
  | run, [] => if run.isEmpty then [] else [run.reverse]
  | run, c :: cs =>
    if isBlank c then
      if run.isEmpty then wordsAfter [] cs else run.reverse :: wordsAfter [] cs
    else wordsAfter (c :: run) cs

/-- the blank-free runs of a text, in order -/
def words (cs : List Char) : List (List Char) :=
  wordsAfter [] cs

/-! ## Case -/

/-- ASCII capitals become small letters, all else is kept -/
def foldChar (c : Char) : Char :=
  if 'A' ≤ c ∧ c ≤ 'Z' then Char.ofNat (c.toNat + 32) else c

/-- folding letter by letter -/
def foldCase (s : String) : String :=
  String.ofList (s.toList.map foldChar)

/-- equality up to the case of ASCII letters -/
def sameIgnoringCase (a b : String) : Bool :=
  foldCase a == foldCase b

/-! ## Digits -/

/-- code points of the digit zero, script by script; each script's digits are ten consecutive code points -/
def digitZeros : List Nat := [
  0x30, 0x660, 0x6F0, 0x7C0, 0x966, 0x9E6, 0xA66, 0xAE6, 0xB66, 0xBE6, 0xC66, 0xCE6, 0xD66, 0xDE6, 0xE50, 0xED0,
  0xF20, 0x1040, 0x1090, 0x17E0, 0x1810, 0x1946, 0x19D0, 0x1A80, 0x1A90, 0x1B50, 0x1BB0, 0x1C40, 0x1C50, 0xA620,
  0xA8D0, 0xA900, 0xA9D0, 0xA9F0, 0xAA50, 0xABF0, 0xFF10, 0x104A0, 0x10D30, 0x10D40, 0x11066, 0x110F0, 0x11136,
  0x111D0, 0x112F0, 0x11450, 0x114D0, 0x11650, 0x116C0, 0x116D0, 0x116DA, 0x11730, 0x118E0, 0x11950, 0x11BF0,
  0x11C50, 0x11D50, 0x11DA0, 0x11F50, 0x16130, 0x16A60, 0x16AC0, 0x16B50, 0x16D70, 0x1CCF0, 0x1D7CE, 0x1D7D8,
  0x1D7E2, 0x1D7EC, 0x1D7F6, 0x1E140, 0x1E2F0, 0x1E4F0, 0x1E5F1, 0x1E950, 0x1FBF0]

/-- the general category Nd -/
def isDecimalDigit (c : Char) : Bool :=
  digitZeros.any fun z => z ≤ c.toNat && c.toNat ≤ z + 9

/-- the ten digits that numbers are read from -/
def isAsciiDigit (c : Char) : Bool :=
  '0' ≤ c && c ≤ '9'

def hexValue? (c : Char) : Option Nat :=
  if '0' ≤ c ∧ c ≤ '9' then some (c.toNat - 48)
  else if 'a' ≤ c ∧ c ≤ 'f' then some (c.toNat - 87)
  else if 'A' ≤ c ∧ c ≤ 'F' then some (c.toNat - 55)
  else none

def hexNumber? (cs : List Char) : Option Nat :=
  cs.foldlM (fun n c => (hexValue? c).map (16 * n + ·)) 0

end Telemetry.Text
