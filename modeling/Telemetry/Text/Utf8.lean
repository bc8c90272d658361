/-
Octets read as UTF-8 text.

`pieces` cuts octets into characters and, between them, the longest runs that begin a character and do not end it. A strict
reader refuses octets at the first such run (`Utf8.read`), a lenient one writes one replacement character for each
(`Utf8.readLeniently`).
-/
namespace Telemetry.Text.Utf8

/-! ## Pieces -/

/-- a character that has begun -/
structure Opened where
  /-- octets behind the next one -/
  further : Nat
  /-- bounds of the next octet -/
  least : Nat
  greatest : Nat
  /-- the bits so far -/
  bits : Nat
  /-- octets so far -/
  seen : Nat
  deriving DecidableEq, Repr

/-- what octets are made of -/
inductive Piece where
  | character (c : Char)
  /-- octets that begin a character, or none, and cannot go on -/
  | stray (length : Nat)
  /-- octets that begin a character, at the end -/
  | unfinished
  deriving DecidableEq, Repr

/-- a first octet that others follow -/
def opened? (octet : Nat) : Option Opened :=
  if 0xC2 ≤ octet ∧ octet ≤ 0xDF then some ⟨0, 0x80, 0xBF, octet - 0xC0, 1⟩
  else if octet = 0xE0 then some ⟨1, 0xA0, 0xBF, 0, 1⟩
  else if octet = 0xED then some ⟨1, 0x80, 0x9F, 0xD, 1⟩
  else if 0xE1 ≤ octet ∧ octet ≤ 0xEF then some ⟨1, 0x80, 0xBF, octet - 0xE0, 1⟩
  else if octet = 0xF0 then some ⟨2, 0x90, 0xBF, 0, 1⟩
  else if 0xF1 ≤ octet ∧ octet ≤ 0xF3 then some ⟨2, 0x80, 0xBF, octet - 0xF0, 1⟩
  else if octet = 0xF4 then some ⟨2, 0x80, 0x8F, 4, 1⟩
  else none

/-- an octet where a character may begin -/
def start (octet : Nat) : List Piece × Option Opened :=
  if octet < 0x80 then ([.character (Char.ofNat octet)], none)
  else
    match opened? octet with
    | some o => ([], some o)
    | none => ([.stray 1], none)

/-- an octet after those of a character that has begun, if one has -/
def step : Option Opened → Nat → List Piece × Option Opened
  | none, octet => start octet
  | some o, octet =>
    if o.least ≤ octet ∧ octet ≤ o.greatest then
      let bits := 64 * o.bits + octet % 64
      match o.further with
      | 0 => ([.character (Char.ofNat bits)], none)
      | further + 1 => ([], some ⟨further, 0x80, 0xBF, bits, o.seen + 1⟩)
    else
      let (found, next) := start octet
      (.stray o.seen :: found, next)

/-- the pieces of octets, after those of a character that has begun, if one has -/
def piecesAfter : Option Opened → List UInt8 → List Piece
  | none, [] => []
  | some _, [] => [.unfinished]
  | state, octet :: octets =>
    let (found, next) := step state octet.toNat
    found ++ piecesAfter next octets

def pieces (octets : List UInt8) : List Piece :=
  piecesAfter none octets

/-! ## Readers -/

/-- why octets are no text -/
structure Fault where
  /-- octets before the fault -/
  index : Nat
  /-- how many octets are at fault; `none` if more were wanted -/
  length : Option Nat
  deriving DecidableEq, Repr

/-- the fault in words -/
def Fault.message (f : Fault) : String :=
  match f.length with
  | some length => s!"invalid utf-8 sequence of {length} bytes from index {f.index}"
  | none => s!"incomplete utf-8 byte sequence from index {f.index}"

/-- the characters of pieces that begin at an index -/
def charactersFrom (index : Nat) : List Piece → Except Fault (List Char)
  | [] => .ok []
  | .character c :: ps => (charactersFrom (index + c.utf8Size) ps).map (c :: ·)
  | .stray length :: _ => .error ⟨index, some length⟩
  | .unfinished :: _ => .error ⟨index, none⟩

def read (octets : List UInt8) : Except Fault (List Char) :=
  charactersFrom 0 (pieces octets)

/-- the character of a piece, or the one that stands for a fault -/
def Piece.shown : Piece → Char
  | .character c => c
  | .stray _ => '\uFFFD'
  | .unfinished => '\uFFFD'

/-- the text that octets are, each fault in it replaced -/
def readLeniently (octets : List UInt8) : List Char :=
  (pieces octets).map Piece.shown

end Telemetry.Text.Utf8
