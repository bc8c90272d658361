import Telemetry.Address.Parts
/-
What a database makes of an address.

The host, if it is a path in disguise, then the user, the password and the path have to be text behind their escapes. The query
is a list of options; one that is unknown is passed over, and faults in escapes are passed over too.
-/
namespace Telemetry.Address

open Text

/-- the characters behind escapes -/
def textOf (cs : List Char) : Except Fault (List Char) :=
  (Utf8.read (percentDecoded cs)).mapError .notText

/-- only a host that begins with a slash is read through its escapes -/
def checkHost (host : List Char) : Except Fault Unit :=
  if (percentDecoded host).head? = some 0x2F then (textOf host).map fun _ => () else .ok ()

/-! ## Options -/

/-- the value of digits after a number, none greater than a bound -/
def numberFrom (greatest : Nat) (n : Nat) : List Char → Except NumberFault Nat
  | [] => .ok n
  | c :: cs =>
    if !isAsciiDigit c then .error .badDigit
    else
      let n := 10 * n + (c.toNat - 48)
      if greatest < n then .error .tooLarge else numberFrom greatest n cs

/-- a number up to a bound, a plus sign before it or not -/
def readNumber (greatest : Nat) : List Char → Except NumberFault Nat
  | [] => .error .empty
  | ['+'] => .error .badDigit
  | '+' :: cs => numberFrom greatest 0 cs
  | cs => numberFrom greatest 0 cs

/-- degrees of transport security -/
def securities : List String := ["disable", "allow", "prefer", "require", "verify-ca", "verify-full"]

/-- whether an option can be taken -/
def checkOption (name value : List Char) : Except Fault Unit :=
  let isNamed := [String.ofList name].contains
  let number := fun greatest => ((readNumber greatest value).mapError Fault.badNumber).map fun _ => ()
  if isNamed "sslmode" || isNamed "ssl-mode" then
    if securities.contains (foldCase (String.ofList value)) then .ok () else .error (.unknownSecurity value)
  else if isNamed "statement-cache-capacity" then number 18446744073709551615
  else if isNamed "port" then number 65535
  else if isNamed "hostaddr" then if isNumerical value then .ok () else .error .badNumericalHost
  else .ok ()

/-- the characters behind a name or a value of an option; a plus sign is a space -/
def optionText (cs : List Char) : List Char :=
  Utf8.readLeniently (percentDecoded (cs.map fun c => if c = '+' then ' ' else c))

def options (query : List Char) : List (List Char × List Char) :=
  ((cutAt '&' query).filter (!·.isEmpty)).map fun part =>
    let (name, value) := (cutAtFirst? '=' part).getD (part, [])
    (optionText name, optionText value)

/-! ## Addresses -/

/-- whether a database can be sought at an address -/
def check (text : String) : Except Fault Unit := do
  let parts ← Parts.read text
  checkHost parts.host
  let _ ← textOf parts.user
  let _ ← textOf parts.password
  let _ ← textOf parts.path
  (options parts.query).forM fun (name, value) => checkOption name value

end Telemetry.Address
