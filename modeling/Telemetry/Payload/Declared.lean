import Telemetry.Channel.Definition
import Telemetry.Payload.Wire
/-
Declared channels: what the meta block of a payload says, checked and trimmed.

A channel without an index has its position for one. Codes must not be blank and must differ in more than case, indices must
not be negative and must differ; channels are checked one after another, the code before the index.
-/
namespace Telemetry.Payload

open Json Text

/-- a channel as declared, with its effective index -/
structure DeclaredChannel where
  index : Nat
  code : String
  unit : String
  dimension : String
  deriving DecidableEq, Repr

/-- the channel carries the time of a row -/
def DeclaredChannel.isTime (c : DeclaredChannel) : Bool :=
  Channel.isTimeCode c.code

def effectiveIndex (position : Nat) (code : String) : Option Int → Except ParserError Nat
  | none => .ok position
  | some i => if 0 ≤ i then .ok i.toNat else .error (.invalidChannelIndex code i)

/-- the channel at a position, given the channels declared before it -/
def declare (before : List DeclaredChannel) (position : Nat) (w : WireChannel) : Except ParserError DeclaredChannel := do
  let code := trim w.code
  if code = "" then throw (.emptyChannelCode position)
  if before.any fun c => sameIgnoringCase c.code code then throw (.duplicateChannel code)
  let index ← effectiveIndex position code w.index
  match before.find? fun c => c.index == index with
  | some first => throw (.duplicateChannelIndex index first.code code)
  | none => return ⟨index, code, trim w.uom, trim w.dimension⟩

/-- the remaining channels, after those declared before them -/
def declareFrom : List DeclaredChannel → List WireChannel → Except ParserError (List DeclaredChannel)
  | before, [] => .ok before
  | before, w :: ws => do
    let c ← declare before before.length w
    declareFrom (before ++ [c]) ws

/-- the declared channels of a meta block -/
def parseChannels (channels : List WireChannel) : Except ParserError (List DeclaredChannel) :=
  declareFrom [] channels

/-! ## In JSON -/

def WireChannel.toJson (c : WireChannel) : Value :=
  .record [("index", match c.index with | some i => .ofInt i | none => .null), ("code", .string c.code),
    ("uom", .string c.uom), ("dimension", .string c.dimension)]

def DeclaredChannel.ofJson? (w : Written) : Option DeclaredChannel := do
  let fields ← w.fields? ["index", "code", "unit", "dimension"]
  let index ← fields.required "index" (Written.natUpTo? Decimal.greatestNat64)
  let code ← fields.required "code" Written.string?
  let unit ← fields.required "unit" Written.string?
  let dimension ← fields.required "dimension" Written.string?
  return ⟨index, code, unit, dimension⟩

def DeclaredChannel.toJson (c : DeclaredChannel) : Value :=
  .record [("index", .ofNat c.index), ("code", .string c.code), ("unit", .string c.unit),
    ("dimension", .string c.dimension)]

end Telemetry.Payload
