import Telemetry.Address.Name
import Telemetry.Text.Character
/-
The parts of an address: a scheme, a user and a password, a host and a port, a path and a query.

How the rest is read depends on the scheme. For the schemes of the web a host is wanted and a backslash is as good as a slash.
A file may be on a host. With any other scheme there is a host only behind two slashes, and its name is taken as it stands.
-/
namespace Telemetry.Address

open Text

/-- how an address with a scheme is read -/
inductive Kind where
  | web
  | file
  | other
  deriving DecidableEq, Repr

namespace Kind

def ofScheme (scheme : String) : Kind :=
  if ["http", "https", "ws", "wss", "ftp"].contains scheme then .web
  else if scheme = "file" then .file
  else .other

/-- the character separates like a slash -/
def slashes (k : Kind) (c : Char) : Bool :=
  c == '/' || c == '\\' && k != .other

/-- the character ends what stands before the path -/
def endsHost (k : Kind) (c : Char) : Bool :=
  k.slashes c || c == '?' || c == '#'

end Kind

/-- what an address says, escapes and all; what it does not say is empty -/
structure Parts where
  user : List Char := []
  password : List Char := []
  host : List Char := []
  /-- without dot segments, and without slashes in front -/
  path : List Char := []
  query : List Char := []
  deriving DecidableEq, Repr

/-! ## Hosts -/

/-- a character that no name taken as it stands has -/
def isForbiddenInHost (c : Char) : Bool :=
  ['\x00', '\t', '\n', '\r', ' ', '#', '/', ':', '<', '>', '?', '@', '[', '\\', ']', '^', '|'].contains c

/-- the host that is meant; in brackets stands an address of version 6 -/
def readHost (k : Kind) (cs : List Char) : Except Fault (List Char) :=
  match cs with
  | '[' :: inner => if inner.getLast? = some ']' ∧ isIpv6 inner.dropLast then .ok cs else .error .badIpv6
  | _ =>
    if k = .other then (if cs.any isForbiddenInHost then .error .badHostCharacter else .ok cs)
    else readName cs

/-- the characters of a host and what follows; a colon ends a host outside brackets -/
def cutHost (k : Kind) : Bool → List Char → List Char × List Char
  | _, [] => ([], [])
  | bracketed, c :: cs =>
    if k.endsHost c || c == ':' && !bracketed then ([], c :: cs)
    else
      let (host, rest) := cutHost k (c == '[' || c != ']' && bracketed) cs
      (c :: host, rest)

def afterPort (cs : List Char) : Except Fault (List Char) :=
  match cs with
  | ':' :: cs =>
    let (digits, rest) := Decimal.takeDigits cs
    if Decimal.digitsValue digits ≤ 65535 ∧ rest.head?.all (['/', '\\', '?', '#'].contains ·) then .ok rest
    else .error .badPort
  | _ => .ok cs

/-- the user and the password, and what follows the last at sign before the path -/
def readUser (k : Kind) (cs : List Char) : Except Fault (List Char × List Char × List Char) :=
  let rest := cs.dropWhile fun c => !k.endsHost c
  match cutAtLast? '@' (cs.takeWhile fun c => !k.endsHost c) with
  | none => .ok ([], [], cs)
  | some ([], host) => if host.isEmpty && !rest.isEmpty then .error .noHost else .ok ([], [], host ++ rest)
  | some (before, host) =>
    let (user, password) := (cutAtFirst? ':' before).getD (before, [])
    .ok (user, password, host ++ rest)

/-! ## Paths -/

/-- a segment that stands for the directory it is in -/
def isDot (segment : List Char) : Bool :=
  [".", "%2e"].contains (foldCase (String.ofList segment))

/-- a segment that stands for the directory above -/
def isDoubleDot (segment : List Char) : Bool :=
  ["..", ".%2e", "%2e.", "%2e%2e"].contains (foldCase (String.ofList segment))

/-- the path to a directory, from the segments entered on the way to it, last one first -/
def directory (entered : List (List Char)) : List Char :=
  entered.reverse.flatMap (· ++ ['/'])

/-- a path from the segments entered so far, last one first, and the segments to come -/
def resolved : List (List Char) → List (List Char) → List Char
  | entered, [] => directory entered
  | entered, segment :: segments =>
    if isDoubleDot segment then resolved entered.tail segments
    else if isDot segment then resolved entered segments
    else
      match segments with
      | [] => directory entered ++ segment
      | _ => resolved (segment :: entered) segments

/-- the path and the query of an address whose other parts are known -/
def Parts.withPath (p : Parts) (path : List Char → List Char) (cs : List Char) : Parts :=
  let ends := fun c => c == '?' || c == '#'
  let query := match cs.dropWhile (!ends ·) with
    | '?' :: rest => rest.takeWhile (· != '#')
    | _ => []
  { p with path := (path (cs.takeWhile (!ends ·))).dropWhile (· == '/'), query }

/-- a path of segments, without its dot segments -/
def hierarchical (k : Kind) (cs : List Char) : List Char :=
  resolved [] (cutAt '/' (cs.map fun c => if k.slashes c then '/' else c))

/-! ## Addresses -/

/-- an address from what follows the two slashes -/
def ofAuthority (k : Kind) (cs : List Char) : Except Fault Parts := do
  let (user, password, cs) ← readUser k cs
  let (host, rest) := cutHost k false cs
  if host.isEmpty && (k == .web || rest.head? == some ':' || !user.isEmpty || !password.isEmpty) then throw .noHost
  let host ← readHost k host
  let rest ← afterPort rest
  return Parts.withPath { user, password, host } (hierarchical k) rest

/-- a letter and a colon or a bar, which name a drive and no host -/
def isDrive (cs : List Char) : Bool :=
  match cs with
  | [letter, mark] => letter.isAlpha && (mark == ':' || mark == '|')
  | _ => false

/-- an address of a file, from what follows its scheme -/
def ofFile (cs : List Char) : Except Fault Parts := do
  let path := Parts.withPath {} (hierarchical .file)
  match cs with
  | a :: b :: cs' =>
    if Kind.file.slashes a && Kind.file.slashes b then
      let host := cs'.takeWhile fun c => !Kind.file.endsHost c
      if host.isEmpty || isDrive host then return path cs'
      else
        let host ← readHost .file host
        return { path (cs'.dropWhile fun c => !Kind.file.endsHost c) with host }
    else return path cs
  | _ => return path cs

/-- the characters of an address: no blanks or controls at its ends, and no tabs or line ends -/
def readable (text : String) : List Char :=
  let isOuter := fun c : Char => c ≤ ' '
  let cs := ((text.toList.dropWhile isOuter).reverse.dropWhile isOuter).reverse
  cs.filter fun c => c != '\t' && c != '\n' && c != '\r'

/-- the scheme, folded, and what follows its colon -/
def scheme? (cs : List Char) : Option (String × List Char) :=
  match cutAtFirst? ':' cs with
  | some (scheme, rest) =>
    if scheme.head?.any Char.isAlpha && scheme.all (fun c => c.isAlphanum || ['+', '-', '.'].contains c) then
      some (foldCase (String.ofList scheme), rest)
    else none
  | none => none

def Parts.read (text : String) : Except Fault Parts :=
  match scheme? (readable text) with
  | none => .error .noScheme
  | some (scheme, rest) =>
    match Kind.ofScheme scheme, rest with
    | .web, rest => ofAuthority .web (rest.dropWhile Kind.web.slashes)
    | .file, rest => ofFile rest
    | .other, '/' :: '/' :: rest => ofAuthority .other rest
    | .other, '/' :: rest => .ok (Parts.withPath {} (hierarchical .other) ('/' :: rest))
    | .other, rest => .ok (Parts.withPath {} id rest)

end Telemetry.Address
