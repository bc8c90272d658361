import Telemetry.Text.Printable
import Telemetry.Text.Utf8
/-
Why a database address is refused.
-/
namespace Telemetry.Address

/-- why a number among the options of an address is refused -/
inductive NumberFault where
  | empty
  | badDigit
  | tooLarge
  deriving DecidableEq, Repr

def NumberFault.message : NumberFault → String
  | .empty => "cannot parse integer from empty string"
  | .badDigit => "invalid digit found in string"
  | .tooLarge => "number too large to fit in target type"

/-- why an address is refused -/
inductive Fault where
  /-- no scheme stands before a colon -/
  | noScheme
  /-- no host where one is wanted -/
  | noHost
  /-- a name of the kind that the network knows, badly formed -/
  | badName
  /-- a character that no host has -/
  | badHostCharacter
  | badIpv4
  | badIpv6
  | badPort
  /-- escapes that stand for no text -/
  | notText (fault : Text.Utf8.Fault)
  /-- an unknown degree of transport security -/
  | unknownSecurity (value : List Char)
  | badNumber (fault : NumberFault)
  /-- an option that is to be a numerical address -/
  | badNumericalHost
  deriving DecidableEq, Repr

/-- the fault in words -/
def Fault.message : Fault → String
  | .noScheme => "relative URL without a base"
  | .noHost => "empty host"
  | .badName => "invalid international domain name"
  | .badHostCharacter => "invalid domain character"
  | .badIpv4 => "invalid IPv4 address"
  | .badIpv6 => "invalid IPv6 address"
  | .badPort => "invalid port number"
  | .notText fault => fault.message
  | .unknownSecurity value => "error with configuration: unknown value " ++ Text.quoted value ++ " for `ssl_mode`"
  | .badNumber fault => fault.message
  | .badNumericalHost => "invalid IP address syntax"

end Telemetry.Address
