import Telemetry.Address.Fault
import Telemetry.Address.NameCharacter
import Telemetry.Address.Numerical
import Telemetry.Address.Punycode
import Telemetry.Text.Character
/-
Names of hosts that the network resolves.

A name is read through its percent escapes and folded. Its labels stand between points; one in Punycode has to stand for
a label that needs it. Letters that run from right to left share no label with others, and if there are any, every label
begins with a letter and does not end in a mark of punctuation. A name whose last label is a number has to be an address of
version 4.
-/
namespace Telemetry.Address

open Text

/-- the octets that a text stands for: a percent sign and two hexadecimal digits are one octet, and every other character is its
UTF-8 octets, a percent sign without its digits included -/
def percentDecoded : List Char → List UInt8
  | '%' :: a :: b :: cs =>
    match hexValue? a, hexValue? b with
    | some high, some low => UInt8.ofNat (16 * high + low) :: percentDecoded cs
    | _, _ => String.utf8EncodeChar '%' ++ percentDecoded (a :: b :: cs)
  | c :: cs => String.utf8EncodeChar c ++ percentDecoded cs
  | [] => []

/-- the mark of a label in Punycode -/
def encodedMark : List Char := ['x', 'n', '-', '-']

/-- the label that is meant, unless the one given is badly encoded -/
def decodedLabel? (label : List Char) : Option (List Char) :=
  if label.take 4 = encodedMark then
    match Punycode.decode? (label.drop 4) with
    | some decoded =>
      let needed := decoded.any (128 ≤ ·.toNat) && decoded.take 4 != encodedMark
      if needed && decoded.all isFolded then some decoded else none
    | none => none
  else some label

/-- every joiner stands behind a sign that silences a vowel; one that parts may stand between letters that run from right to
left -/
def joinersHeld : Option Char → List Char → Bool
  | _, [] => true
  | before, c :: cs =>
    (!isJoiner c || before.any (inRanges viramaRanges) ||
      c == '\u200C' && before.any isRightToLeft && cs.head?.any isRightToLeft) && joinersHeld (some c) cs

/-- the label is well formed -/
def isLabel (label : List Char) : Bool :=
  label.all isNameChar && !label.head?.any isExtending && joinersHeld none label

/-- the label may stand in a name that runs from right to left -/
def isOrdered (label : List Char) : Bool :=
  match label with
  | [] => true
  | c :: _ =>
    let last := (label.reverse.dropWhile isExtending).head?
    last.any isAlphanumeric && !isDecimalDigit c &&
      if isRightToLeft c then !label.any isLeftToRight else isLeftToRight c && !label.any isRightToLeft

/-- labels that may stand together in a name -/
def areLabels (labels : List (List Char)) : Bool :=
  labels.all isLabel && (!labels.any (·.any isRightToLeft) || labels.all isOrdered)

def writtenName (cs : List Char) : Except Fault (List Char) :=
  match Utf8.read (percentDecoded cs) with
  | .ok cs => .ok (cs.flatMap nameChar)
  | .error _ => .error .badName

def readName (cs : List Char) : Except Fault (List Char) := do
  let name ← writtenName cs
  match (cutAt '.' name).mapM decodedLabel? with
  | none => .error .badName
  | some labels =>
    if !areLabels labels then .error .badName
    else if name.isEmpty then .error .noHost
    else if endsInNumber name && !isIpv4 name then .error .badIpv4
    else .ok name

end Telemetry.Address
