import Telemetry.Catalog
import Telemetry.Point.OfRows
/-
Declared channels matched with the catalog.

Repeated codes are found before anything is asked of the catalog; then each channel in turn must be defined, in the declared
dimension and unit up to case.
-/
namespace Telemetry.Channel

open Payload Text

/-- the first channel whose code was declared before, ignoring case -/
def firstRepeated : List String → List DeclaredChannel → Option DeclaredChannel
  | _, [] => none
  | seen, c :: cs =>
    if seen.contains (foldCase c.code) then some c else firstRepeated (foldCase c.code :: seen) cs

/-- a declared property agrees with the defined one, ignoring case -/
def checkMatches (code property expected actual : String) : Except ServiceError Unit :=
  if sameIgnoringCase expected actual then .ok () else .error (.channelMismatch code property expected actual)

def matchDefinition (c : DeclaredChannel) (d : Definition) : Except ServiceError Resolved := do
  checkMatches c.code "dimension" d.dimension c.dimension
  checkMatches c.code "unit" d.unit c.unit
  Resolved.of c.index d

/-- looks channels up and matches them, one after another -/
def lookUp : List DeclaredChannel → Action (List Resolved)
  | [] => return []
  | c :: cs => do
    let found ← Catalog.get c.code .cached
    let d ← .orFail (.undefinedChannel c.code) found
    let r ← .ofExcept (matchDefinition c d)
    let rs ← lookUp cs
    return r :: rs

def resolve (channels : List DeclaredChannel) : Action (List Resolved) :=
  match firstRepeated [] channels with
  | some c => .fail (.duplicateChannel c.code)
  | none => lookUp channels

end Telemetry.Channel

namespace Telemetry.Payload

def Parsed.points (p : Parsed) : Action (List Point) := do
  let channels ← Channel.resolve p.channels
  .ofExcept (Point.ofRows channels p.rows)

end Telemetry.Payload
