import Telemetry.Json.Value
import Telemetry.Text.Character
/-
Reading JSON text in two stages.

`read` accepts the grammar and yields a `Written`: numbers as numerals and texts as pieces, so that nothing in it has been
judged yet. `Written.toValue?` then makes the value and refuses what has none: a number out of range, a surrogate without
its partner, and arrays and objects nested deeper than a limit. A reader of records judges only the fields it knows.
-/
namespace Telemetry.Json

open Decimal

/-- a piece of a quoted text: a character, or a UTF-16 unit given by its code -/
inductive Piece where
  | char (c : Char)
  | unit (code : Nat)
  deriving DecidableEq, Repr

/-- JSON text as it stands -/
inductive Written where
  | null
  | bool (b : Bool)
  | number (n : Numeral)
  | string (pieces : List Piece)
  | array (items : List Written)
  | object (members : List (List Piece × Written))
  deriving Repr

instance : Inhabited Written := ⟨.null⟩

/-! ## The grammar -/

def skipSpace : List Char → List Char
  | c :: cs => if c = ' ' ∨ c = '\n' ∨ c = '\t' ∨ c = '\r' then skipSpace cs else c :: cs
  | [] => []

/-- the character a short escape stands for -/
def escaped? : Char → Option Char
  | '"' => some '"'
  | '\\' => some '\\'
  | '/' => some '/'
  | 'b' => some (Char.ofNat 8)
  | 'f' => some (Char.ofNat 12)
  | 'n' => some '\n'
  | 'r' => some '\r'
  | 't' => some '\t'
  | _ => none

/-- the rest of a quoted text, up to and with its closing quote -/
def readPieces : List Char → Option (List Piece × List Char)
  | [] => none
  | '"' :: rest => some ([], rest)
  | '\\' :: 'u' :: a :: b :: c :: d :: rest =>
    match Text.hexNumber? [a, b, c, d], readPieces rest with
    | some n, some (pieces, rest) => some (.unit n :: pieces, rest)
    | _, _ => none
  | '\\' :: c :: rest =>
    match escaped? c, readPieces rest with
    | some e, some (pieces, rest) => some (.char e :: pieces, rest)
    | _, _ => none
  | c :: rest =>
    if c = '\\' ∨ c.toNat < 32 then none
    else
      match readPieces rest with
      | some (pieces, rest) => some (.char c :: pieces, rest)
      | none => none

/-- the digits before the point: a lone zero, or digits that do not start with one -/
def readWhole : List Char → Option (List Char × List Char)
  | '0' :: rest => some (['0'], rest)
  | cs => match takeDigits cs with
    | ([], _) => none
    | found => some found

/-- the point and the digits after it, if there is a point -/
def readFraction : List Char → Option (Option (List Char) × List Char)
  | '.' :: rest => match takeDigits rest with
    | ([], _) => none
    | (ds, rest) => some (some ds, rest)
  | cs => some (none, cs)

def readNumber (cs : List Char) : Option (Numeral × List Char) := do
  let (negative, cs) := match cs with
    | '-' :: rest => (true, rest)
    | _ => (false, cs)
  let (whole, cs) ← readWhole cs
  let (fraction, cs) ← readFraction cs
  let (power, cs) ← takePower cs
  return (⟨negative, whole, fraction, power⟩, cs)

mutual

/-- a value; the first argument bounds the nesting and length that are followed -/
def readValue : Nat → List Char → Option (Written × List Char)
  | 0, _ => none
  | fuel + 1, cs =>
    match skipSpace cs with
    | 'n' :: 'u' :: 'l' :: 'l' :: rest => some (.null, rest)
    | 't' :: 'r' :: 'u' :: 'e' :: rest => some (.bool true, rest)
    | 'f' :: 'a' :: 'l' :: 's' :: 'e' :: rest => some (.bool false, rest)
    | '"' :: rest => (readPieces rest).map fun (pieces, rest) => (.string pieces, rest)
    | '[' :: rest =>
      match skipSpace rest with
      | ']' :: rest => some (.array [], rest)
      | rest => (readItems fuel rest).map fun (items, rest) => (.array items, rest)
    | '\x7b' :: rest =>
      match skipSpace rest with
      | '\x7d' :: rest => some (.object [], rest)
      | rest => (readMembers fuel rest).map fun (members, rest) => (.object members, rest)
    | rest => (readNumber rest).map fun (n, rest) => (.number n, rest)

/-- one or more array elements and the closing bracket -/
def readItems : Nat → List Char → Option (List Written × List Char)
  | 0, _ => none
  | fuel + 1, cs =>
    match readValue fuel cs with
    | none => none
    | some (item, rest) =>
      match skipSpace rest with
      | ',' :: rest => (readItems fuel rest).map fun (items, rest) => (item :: items, rest)
      | ']' :: rest => some ([item], rest)
      | _ => none

/-- one or more object members and the closing brace -/
def readMembers : Nat → List Char → Option (List (List Piece × Written) × List Char)
  | 0, _ => none
  | fuel + 1, cs =>
    match skipSpace cs with
    | '"' :: rest =>
      match readPieces rest with
      | none => none
      | some (key, rest) =>
        match skipSpace rest with
        | ':' :: rest =>
          match readValue fuel rest with
          | none => none
          | some (value, rest) =>
            match skipSpace rest with
            | ',' :: rest =>
              (readMembers fuel rest).map fun (members, rest) => ((key, value) :: members, rest)
            | '\x7d' :: rest => some ([(key, value)], rest)
            | _ => none
        | _ => none
    | _ => none

end

/-- a whole text holding one value -/
def read (s : String) : Option Written :=
  let cs := s.toList
  match readValue (2 * cs.length + 2) cs with
  | some (w, rest) => if (skipSpace rest).isEmpty then some w else none
  | none => none

/-! ## Values -/

def isHighSurrogate (n : Nat) : Bool := 0xD800 ≤ n && n ≤ 0xDBFF

def isLowSurrogate (n : Nat) : Bool := 0xDC00 ≤ n && n ≤ 0xDFFF

/-- the characters of a quoted text; surrogates must come in pairs -/
def piecesText? : List Piece → Option (List Char)
  | [] => some []
  | .char c :: rest => (piecesText? rest).map (c :: ·)
  | .unit h :: .unit l :: rest =>
    if isHighSurrogate h then
      if isLowSurrogate l then
        (piecesText? rest).map (Char.ofNat (0x10000 + (h - 0xD800) * 0x400 + (l - 0xDC00)) :: ·)
      else none
    else if isLowSurrogate h then none
    else (piecesText? (.unit l :: rest)).map (Char.ofNat h :: ·)
  | .unit n :: rest =>
    if isHighSurrogate n || isLowSurrogate n then none else (piecesText? rest).map (Char.ofNat n :: ·)

def text? (pieces : List Piece) : Option String :=
  (piecesText? pieces).map String.ofList

/-- arrays and objects may be nested this deep -/
def depthLimit : Nat := 127

mutual

/-- the value written, with at most `depth` arrays and objects inside one another -/
def Written.toValue? : Nat → Written → Option Value
  | _, .null => some .null
  | _, .bool b => some (.bool b)
  | _, .number n => (Number.ofNumeral? n).map .number
  | _, .string pieces => (text? pieces).map .string
  | 0, .array _ => none
  | depth + 1, .array items => (toValues? depth items).map .array
  | 0, .object _ => none
  | depth + 1, .object members => (toMembers? depth members).map fun ms => .object (SortedMap.ofList ms)

def toValues? : Nat → List Written → Option (List Value)
  | _, [] => some []
  | depth, w :: ws => match w.toValue? depth, toValues? depth ws with
    | some v, some vs => some (v :: vs)
    | _, _ => none

def toMembers? : Nat → List (List Piece × Written) → Option (List (String × Value))
  | _, [] => some []
  | depth, (key, w) :: ws => match text? key, w.toValue? depth, toMembers? depth ws with
    | some k, some v, some ms => some ((k, v) :: ms)
    | _, _, _ => none

end

def readValueText (s : String) : Option Value :=
  (read s).bind (Written.toValue? depthLimit)

end Telemetry.Json
