import Telemetry.Decimal.Numeral
import Telemetry.Text.Character
import Telemetry.Time.Civil
import Telemetry.Toml.Value
/-
The smallest parts of TOML text: white space, comments, line ends, strings, keys, numbers, dates and times.

Each reader takes characters and gives what it read and what follows, or nothing.
-/
namespace Telemetry.Toml

open Decimal

def skipBlanks (cs : List Char) : List Char :=
  cs.dropWhile fun c => c == ' ' || c == '\t'

/-- a character that may stand in a comment or, quotes aside, in a string on one line -/
def isPrintable (c : Char) : Bool :=
  c == '\t' || (0x20 ≤ c.toNat && c.toNat != 0x7F)

def skipComment : List Char → List Char
  | '#' :: cs => cs.dropWhile isPrintable
  | cs => cs

/-- a line feed, with a carriage return before it or not -/
def newline? : List Char → Option (List Char)
  | '\n' :: cs => some cs
  | '\r' :: '\n' :: cs => some cs
  | _ => none

/-- the end of a line: blanks, a comment, and a line feed or the end of the text -/
def endOfLine? (cs : List Char) : Option (List Char) :=
  match skipComment (skipBlanks cs) with
  | [] => some []
  | cs => newline? cs

/-! ## Strings -/

/-- the character with a number, if it is one -/
def scalar? (n : Nat) : Option Char :=
  if n < 0xD800 ∨ (0xDFFF < n ∧ n < 0x110000) then some (Char.ofNat n) else none

/-- the character an escape stands for, after the backslash -/
def escape? : List Char → Option (Char × List Char)
  | 'b' :: cs => some (Char.ofNat 8, cs)
  | 't' :: cs => some ('\t', cs)
  | 'n' :: cs => some ('\n', cs)
  | 'f' :: cs => some (Char.ofNat 12, cs)
  | 'r' :: cs => some ('\r', cs)
  | '"' :: cs => some ('"', cs)
  | '\\' :: cs => some ('\\', cs)
  | 'u' :: cs => if cs.length < 4 then none else ((Text.hexNumber? (cs.take 4)).bind scalar?).map (·, cs.drop 4)
  | 'U' :: cs => if cs.length < 8 then none else ((Text.hexNumber? (cs.take 8)).bind scalar?).map (·, cs.drop 8)
  | _ => none

/-- the rest of a string in double quotes; the first argument bounds its length -/
def basicString? : Nat → List Char → Option (List Char × List Char)
  | 0, _ => none
  | _, [] => none
  | _, '"' :: cs => some ([], cs)
  | fuel + 1, '\\' :: cs => do
    let (c, cs) ← escape? cs
    let (rest, cs) ← basicString? fuel cs
    return (c :: rest, cs)
  | fuel + 1, c :: cs =>
    if isPrintable c then (basicString? fuel cs).map fun (rest, cs) => (c :: rest, cs) else none

/-- the rest of a string in single quotes -/
def literalString? : List Char → Option (List Char × List Char)
  | [] => none
  | '\'' :: cs => some ([], cs)
  | c :: cs => if isPrintable c then (literalString? cs).map fun (rest, cs) => (c :: rest, cs) else none

/-- drops blanks and line ends, at most as many as the first argument says -/
def skipLines : Nat → List Char → List Char
  | 0, cs => cs
  | fuel + 1, cs =>
    match newline? (skipBlanks cs) with
    | some cs => skipLines fuel cs
    | none => skipBlanks cs

/-- closing quotes of a string over several lines: up to two more than three belong to the string -/
def closing? (quote : Char) (cs : List Char) : Option (List Char × List Char) :=
  let quotes := (cs.takeWhile (· == quote)).length
  if quotes < 3 then none
  else
    let kept := min (quotes - 3) 2
    some (List.replicate kept quote, cs.drop (kept + 3))

/-- the rest of a string in three double quotes; a backslash at the end of a line joins it to the next text -/
def longBasicString? : Nat → List Char → Option (List Char × List Char)
  | 0, _ => none
  | fuel + 1, cs =>
    match closing? '"' cs with
    | some found => some found
    | none =>
      match cs with
      | [] => none
      | '\\' :: rest =>
        match newline? (skipBlanks rest) with
        | some rest => longBasicString? fuel (skipLines rest.length rest)
        | none => do
          let (c, rest) ← escape? rest
          let (more, rest) ← longBasicString? fuel rest
          return (c :: more, rest)
      | c :: rest =>
        match newline? cs with
        | some rest => (longBasicString? fuel rest).map fun (more, rest) => ('\n' :: more, rest)
        | none =>
          if isPrintable c then (longBasicString? fuel rest).map fun (more, rest) => (c :: more, rest) else none

/-- the rest of a string in three single quotes -/
def longLiteralString? : Nat → List Char → Option (List Char × List Char)
  | 0, _ => none
  | fuel + 1, cs =>
    match closing? '\'' cs with
    | some found => some found
    | none =>
      match newline? cs, cs with
      | some rest, _ => (longLiteralString? fuel rest).map fun (more, rest) => ('\n' :: more, rest)
      | none, c :: rest =>
        if isPrintable c then (longLiteralString? fuel rest).map fun (more, rest) => (c :: more, rest) else none
      | none, [] => none

/-- what follows a line end right after opening quotes, which is not part of the string -/
def afterFirstNewline (cs : List Char) : List Char :=
  (newline? cs).getD cs

def string? : List Char → Option (String × List Char)
  | '"' :: '"' :: '"' :: cs =>
    let cs := afterFirstNewline cs
    (longBasicString? (cs.length + 1) cs).map fun (s, cs) => (String.ofList s, cs)
  | '\'' :: '\'' :: '\'' :: cs =>
    let cs := afterFirstNewline cs
    (longLiteralString? (cs.length + 1) cs).map fun (s, cs) => (String.ofList s, cs)
  | '"' :: cs => (basicString? (cs.length + 1) cs).map fun (s, cs) => (String.ofList s, cs)
  | '\'' :: cs => (literalString? cs).map fun (s, cs) => (String.ofList s, cs)
  | _ => none

/-! ## Keys -/

/-- a character of a key without quotes -/
def isBareKeyChar (c : Char) : Bool :=
  ('A' ≤ c && c ≤ 'Z') || ('a' ≤ c && c ≤ 'z') || ('0' ≤ c && c ≤ '9') || c == '_' || c == '-'

def simpleKey? (cs : List Char) : Option (String × List Char) :=
  match cs with
  | '"' :: cs => (basicString? (cs.length + 1) cs).map fun (s, cs) => (String.ofList s, cs)
  | '\'' :: cs => (literalString? cs).map fun (s, cs) => (String.ofList s, cs)
  | cs =>
    match cs.takeWhile isBareKeyChar with
    | [] => none
    | key => some (String.ofList key, cs.dropWhile isBareKeyChar)

/-- a key: parts with points between them and blanks around them -/
def dottedKey? : Nat → List Char → Option (List String × List Char)
  | 0, _ => none
  | fuel + 1, cs => do
    let (part, cs) ← simpleKey? (skipBlanks cs)
    match skipBlanks cs with
    | '.' :: cs =>
      let (parts, cs) ← dottedKey? fuel cs
      return (part :: parts, cs)
    | cs => return ([part], cs)

/-- keys and values may be nested less deep than this -/
def nestingLimit : Nat := 80

/-- a key of fewer parts than the nesting limit -/
def key? (cs : List Char) : Option (List String × List Char) :=
  (dottedKey? (cs.length + 1) cs).filter fun (parts, _) => parts.length < nestingLimit

/-! ## Numbers -/

/-- digits of a kind, single underscores between them allowed -/
def underscoredDigits (isDigit : Char → Bool) : List Char → List Char × List Char
  | '_' :: c :: cs =>
    if isDigit c then
      let (ds, rest) := underscoredDigits isDigit cs
      (c :: ds, rest)
    else ([], '_' :: c :: cs)
  | c :: cs =>
    if isDigit c then
      let (ds, rest) := underscoredDigits isDigit cs
      (c :: ds, rest)
    else ([], c :: cs)
  | [] => ([], [])

/-- one or more digits of a kind, starting with a digit -/
def digits? (isDigit : Char → Bool) (cs : List Char) : Option (List Char × List Char) :=
  match cs with
  | c :: _ => if isDigit c then some (underscoredDigits isDigit cs) else none
  | [] => none

/-- an integer in another base, after its mark -/
def basedInteger? (base : Nat) (isDigit : Char → Bool) (cs : List Char) : Option (Value × List Char) := do
  let (ds, cs) ← digits? isDigit cs
  let n := ds.foldl (fun n c => base * n + (Text.hexValue? c).getD 0) 0
  if (n : Int) ≤ Decimal.greatestInt64 then some (.integer n, cs) else none

/-- digits of a decimal integer, without needless zeros in front -/
def decimalDigits? (cs : List Char) : Option (List Char × List Char) :=
  match cs with
  | '0' :: rest => some (['0'], rest)
  | cs => digits? Text.isAsciiDigit cs

def fraction? : List Char → Option (List Char × List Char)
  | '.' :: cs => digits? Text.isAsciiDigit cs
  | _ => none

/-- a power of ten -/
def exponent? : List Char → Option (Int × List Char)
  | c :: cs =>
    if c = 'e' ∨ c = 'E' then
      let (negative, cs) := takeSign cs
      (digits? Text.isAsciiDigit cs).map fun (ds, cs) =>
        let n : Int := digitsValue ds
        (if negative then -n else n, cs)
    else none
  | [] => none

/-- a decimal number after its sign: a float if a fraction or an exponent follows the integer; only a float beyond the
largest number is refused, and only if it is positive -/
def decimalNumber? (negative : Bool) (cs : List Char) : Option (Value × List Char) := do
  let (whole, cs) ← decimalDigits? cs
  let fraction := fraction? cs
  let afterFraction := (fraction.map (·.2)).getD cs
  let exponent := exponent? afterFraction
  if fraction.isNone && exponent.isNone then
    let n : Int := digitsValue whole
    let i := if negative then -n else n
    if Decimal.leastInt64 ≤ i ∧ i ≤ Decimal.greatestInt64 then some (.integer i, cs) else none
  else
    let fractionDigits := (fraction.map (·.1)).getD []
    let all := whole ++ fractionDigits
    let x := Binary64.ofDecimal negative (digitsValue all) all.length
      ((exponent.map (·.1)).getD 0 - fractionDigits.length)
    if x.isNone && !negative then none else some (.float, (exponent.map (·.2)).getD afterFraction)

/-- an infinite number or none at all -/
def specialFloat? : List Char → Option (Value × List Char)
  | 'i' :: 'n' :: 'f' :: cs => some (.float, cs)
  | 'n' :: 'a' :: 'n' :: cs => some (.float, cs)
  | _ => none

def number? : List Char → Option (Value × List Char)
  | '0' :: 'x' :: cs => basedInteger? 16 (fun c => (Text.hexValue? c).isSome) cs
  | '0' :: 'o' :: cs => basedInteger? 8 (fun c => '0' ≤ c && c ≤ '7') cs
  | '0' :: 'b' :: cs => basedInteger? 2 (fun c => c == '0' || c == '1') cs
  | cs =>
    let (negative, rest) := takeSign cs
    match specialFloat? rest with
    | some found => some found
    | none => decimalNumber? negative rest

/-! ## Dates and times -/

/-- exactly so many ASCII digits, within bounds -/
def fixedDigits? (count least greatest : Nat) (cs : List Char) : Option (Nat × List Char) :=
  let ds := cs.take count
  if ds.length = count ∧ ds.all Text.isAsciiDigit then
    let n := digitsValue ds
    if least ≤ n ∧ n ≤ greatest then some (n, cs.drop count) else none
  else none

/-- the rest after a given character -/
def mark? (mark : Char) : List Char → Option (List Char)
  | c :: cs => if c = mark then some cs else none
  | [] => none

def date? (cs : List Char) : Option (List Char) := do
  let (year, cs) ← fixedDigits? 4 0 9999 cs
  let cs ← mark? '-' cs
  let (month, cs) ← fixedDigits? 2 1 12 cs
  let cs ← mark? '-' cs
  let (_, cs) ← fixedDigits? 2 1 (Time.daysInMonth year month) cs
  return cs

/-- a time of day, with a fraction or without -/
def time? (cs : List Char) : Option (List Char) := do
  let (_, cs) ← fixedDigits? 2 0 23 cs
  let cs ← mark? ':' cs
  let (_, cs) ← fixedDigits? 2 0 59 cs
  let cs ← mark? ':' cs
  let (_, cs) ← fixedDigits? 2 0 60 cs
  match cs with
  | '.' :: rest =>
    match takeDigits rest with
    | ([], _) => return cs
    | (_, rest) => return rest
  | _ => return cs

def skipOffset (cs : List Char) : List Char :=
  match cs with
  | 'Z' :: rest | 'z' :: rest => rest
  | sign :: rest =>
    if sign = '+' ∨ sign = '-' then
      (do
        let (_, rest) ← fixedDigits? 2 0 23 rest
        let rest ← mark? ':' rest
        let (_, rest) ← fixedDigits? 2 0 59 rest
        return rest).getD cs
    else cs
  | [] => []

/-- a date, a time, or both, the latter with an offset or without -/
def dateTime? (cs : List Char) : Option (Value × List Char) :=
  match date? cs with
  | some rest =>
    match rest with
    | c :: more =>
      if c = 'T' ∨ c = 't' ∨ c = ' ' then
        match time? more with
        | some more => some (.dateTime, skipOffset more)
        | none => some (.dateTime, rest)
      else some (.dateTime, rest)
    | [] => some (.dateTime, rest)
  | none => (time? cs).map (.dateTime, ·)

end Telemetry.Toml
