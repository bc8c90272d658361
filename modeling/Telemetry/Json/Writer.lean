import Telemetry.Decimal.Notation
import Telemetry.Json.Value
/-
Compact JSON text: no spaces, members in the order of the value, and only quotes, backslashes and control characters
escaped.
-/
namespace Telemetry.Json

open Decimal

/-- a hexadecimal digit, small letters -/
def hexDigit (n : Nat) : Char :=
  Nat.digitChar (n % 16)

def hex4 (n : Nat) : List Char :=
  [hexDigit (n / 4096), hexDigit (n / 256), hexDigit (n / 16), hexDigit n]

/-- one character inside quotes -/
def escapeChar (c : Char) : List Char :=
  if c = '"' then ['\\', '"']
  else if c = '\\' then ['\\', '\\']
  else if c = '\n' then ['\\', 'n']
  else if c = '\t' then ['\\', 't']
  else if c = '\r' then ['\\', 'r']
  else if c.toNat = 8 then ['\\', 'b']
  else if c.toNat = 12 then ['\\', 'f']
  else if c.toNat < 32 then '\\' :: 'u' :: hex4 c.toNat
  else [c]

def quoted (s : String) : List Char :=
  '"' :: s.toList.flatMap escapeChar ++ ['"']

def Number.text : Number → List Char
  | .int i => if i < 0 then '-' :: digitsOf i.natAbs else digitsOf i.natAbs
  | .float x => x.text .json

def commaSeparated : List (List Char) → List Char
  | [] => []
  | [t] => t
  | t :: ts => t ++ ',' :: commaSeparated ts

mutual

def Value.chars : Value → List Char
  | .null => ['n', 'u', 'l', 'l']
  | .bool true => ['t', 'r', 'u', 'e']
  | .bool false => ['f', 'a', 'l', 's', 'e']
  | .number n => n.text
  | .string s => quoted s
  | .array items => '[' :: commaSeparated (itemTexts items) ++ [']']
  | .object members => '\x7b' :: commaSeparated (memberTexts members) ++ ['\x7d']

def itemTexts : List Value → List (List Char)
  | [] => []
  | v :: vs => v.chars :: itemTexts vs

def memberTexts : List (String × Value) → List (List Char)
  | [] => []
  | (k, v) :: ms => (quoted k ++ ':' :: v.chars) :: memberTexts ms

end

def Value.text (v : Value) : String :=
  String.ofList v.chars

end Telemetry.Json
