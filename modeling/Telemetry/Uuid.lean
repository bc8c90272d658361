import Telemetry.Text.Character
/-
Record identifiers: 128 bits, written as hexadecimal digits in groups of 8, 4, 4, 4 and 12 with hyphens between.

They are read from that form with digits of either case, alone, in braces or after `urn:uuid:`, and from 32 digits without
hyphens.
-/
namespace Telemetry

/-- an identifier of 128 bits -/
structure Uuid where
  bits : BitVec 128
  deriving DecidableEq, Repr

namespace Uuid

/-- the identifier with this number -/
def ofNat (n : Nat) : Uuid := ⟨BitVec.ofNat 128 n⟩

/-- the digits left of and right of the hyphens, if the hyphens stand where they belong -/
def withoutHyphens? (cs : List Char) : Option (List Char) :=
  let groups := [cs.take 8, (cs.drop 9).take 4, (cs.drop 14).take 4, (cs.drop 19).take 4, cs.drop 24]
  if cs.length = 36 ∧ cs[8]? = some '-' ∧ cs[13]? = some '-' ∧ cs[18]? = some '-' ∧ cs[23]? = some '-' then
    some groups.flatten
  else none

/-- the characters inside braces or after the scheme, where one of the two is present -/
def withoutWrapping (cs : List Char) : List Char :=
  if cs.length = 38 ∧ cs.head? = some '\x7b' ∧ cs.getLast? = some '\x7d' then (cs.drop 1).dropLast
  else if cs.length = 45 ∧ cs.take 9 = ['u', 'r', 'n', ':', 'u', 'u', 'i', 'd', ':'] then cs.drop 9
  else cs

/-- the identifier written in a text -/
def read? (s : String) : Option Uuid :=
  let cs := s.toList
  if cs.length = 32 then (Text.hexNumber? cs).map ofNat
  else (withoutHyphens? (withoutWrapping cs)).bind fun digits => (Text.hexNumber? digits).map ofNat

/-- the lowest `count` hexadecimal digits of a number -/
def hexDigits : Nat → Nat → List Char
  | 0, _ => []
  | count + 1, n => hexDigits count (n / 16) ++ [Nat.digitChar (n % 16)]

def text (u : Uuid) : String :=
  let ds := hexDigits 32 u.bits.toNat
  String.ofList <| ds.take 8 ++ '-' :: (ds.drop 8).take 4 ++ '-' :: (ds.drop 12).take 4 ++ '-' :: (ds.drop 16).take 4
    ++ '-' :: ds.drop 20

end Uuid

end Telemetry
