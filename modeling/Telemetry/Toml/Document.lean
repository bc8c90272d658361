import Telemetry.Toml.Lexeme
/-
TOML documents.

A document is read line by line into a tree that remembers how each table came about, since that decides what may still be
added to it: a table under a header is closed to a second header of its name and to dotted keys from outside, a table made
by dotted keys can only grow by dotted keys, and a value, inline tables and arrays included, cannot grow at all.
-/
namespace Telemetry.Toml

/-! ## Tables in the making -/

/-- how a table came about -/
inductive Origin where
  /-- by a header of its own -/
  | header
  /-- on the way to the table of another header -/
  | path
  /-- by dotted keys -/
  | dotted
  deriving DecidableEq, Repr

/-- an entry of a table in the making -/
inductive Node where
  | value (v : Value)
  | table (origin : Origin) (entries : List (String × Node))
  /-- tables under one repeated header, the latest first -/
  | tables (items : List (List (String × Node)))

abbrev Entries := List (String × Node)

/-- entries with the one under a key replaced or added at the end -/
def setEntry (key : String) (node : Node) (entries : Entries) : Entries :=
  if entries.any (·.1 == key) then entries.map fun entry => if entry.1 == key then (key, node) else entry
  else entries ++ [(key, node)]

/-- changes the table that a header's path leads to; tables missing on the way are made -/
def atPath (change : Entries → Option Entries) : List String → Entries → Option Entries
  | [], entries => change entries
  | key :: path, entries =>
    match entries.lookup key with
    | none => (atPath change path []).map fun inner => setEntry key (.table .path inner) entries
    | some (.table origin inner) => (atPath change path inner).map fun inner => setEntry key (.table origin inner) entries
    | some (.tables (last :: before)) =>
      (atPath change path last).map fun last => setEntry key (.tables (last :: before)) entries
    | some _ => none

def openTable (key : String) (entries : Entries) : Option Entries :=
  match entries.lookup key with
  | none => some (setEntry key (.table .header []) entries)
  | some (.table .path inner) => some (setEntry key (.table .header inner) entries)
  | some _ => none

/-- a repeated header opens one more table -/
def appendTable (key : String) (entries : Entries) : Option Entries :=
  match entries.lookup key with
  | none => some (setEntry key (.tables [[]]) entries)
  | some (.tables items) => some (setEntry key (.tables ([] :: items)) entries)
  | some _ => none

/-- adds a value under a dotted key; the second argument tells whether the table at hand was made by dotted keys -/
def addValue (value : Node) : List String → Bool → Bool → Entries → Option Entries
  | [], _, _, _ => none
  | [key], isDotted, isFirst, entries =>
    if isDotted || isFirst then
      if entries.any (·.1 == key) then none else some (setEntry key value entries)
    else none
  | key :: path, _, _, entries =>
    match entries.lookup key with
    | none => (addValue value path true false []).map fun inner => setEntry key (.table .dotted inner) entries
    | some (.table origin inner) =>
      if origin = .header then none
      else
        (addValue value path (origin == .dotted) false inner).map fun inner => setEntry key (.table origin inner) entries
    | some (.tables (last :: before)) =>
      (addValue value path false false last).map fun last => setEntry key (.tables (last :: before)) entries
    | some _ => none

mutual

def Node.toValue : Node → Value
  | .value v => v
  | .table _ entries => .table (entryValues entries)
  | .tables items => .array (tableValues items).reverse

def entryValues : List (String × Node) → List (String × Value)
  | [] => []
  | (key, node) :: rest => (key, node.toValue) :: entryValues rest

def tableValues : List (List (String × Node)) → List Value
  | [] => []
  | entries :: rest => .table (entryValues entries) :: tableValues rest

end

/-! ## Values -/

/-- drops blanks, line ends and comments between the elements of an array -/
def skipArraySpace : Nat → List Char → List Char
  | 0, cs => cs
  | fuel + 1, cs =>
    match skipBlanks cs with
    | '#' :: rest =>
      match newline? (rest.dropWhile isPrintable) with
      | some rest => skipArraySpace fuel rest
      | none => '#' :: rest
    | cs =>
      match newline? cs with
      | some rest => skipArraySpace fuel rest
      | none => cs

mutual

/-- a value inside `depth` arrays and inline tables; the first argument bounds the steps -/
def value? : Nat → Nat → List Char → Option (Value × List Char)
  | 0, _, _ => none
  | fuel + 1, depth, cs =>
    match cs with
    | '"' :: _ | '\'' :: _ => (string? cs).map fun (s, rest) => (.string s, rest)
    | '[' :: rest =>
      if depth + 1 < nestingLimit then (items? fuel (depth + 1) rest).map fun (items, rest) => (.array items, rest) else none
    | '\x7b' :: rest =>
      if depth + 1 < nestingLimit then
        match skipBlanks rest with
        | '\x7d' :: rest => some (.table [], rest)
        | rest => (members? fuel (depth + 1) [] rest).map fun (entries, rest) => (.table (entryValues entries), rest)
      else none
    | 't' :: 'r' :: 'u' :: 'e' :: rest => some (.boolean true, rest)
    | 'f' :: 'a' :: 'l' :: 's' :: 'e' :: rest => some (.boolean false, rest)
    | cs =>
      match dateTime? cs with
      | some found => some found
      | none => number? cs

/-- the elements of an array and its closing bracket; a comma may follow the last element -/
def items? : Nat → Nat → List Char → Option (List Value × List Char)
  | 0, _, _ => none
  | fuel + 1, depth, cs =>
    match skipArraySpace cs.length cs with
    | ']' :: rest => some ([], rest)
    | cs => do
      let (item, rest) ← value? fuel depth cs
      match skipArraySpace rest.length rest with
      | ',' :: rest =>
        let (items, rest) ← items? fuel depth rest
        some (item :: items, rest)
      | ']' :: rest => some ([item], rest)
      | _ => none

/-- the members of an inline table and its closing brace -/
def members? : Nat → Nat → Entries → List Char → Option (Entries × List Char)
  | 0, _, _, _ => none
  | fuel + 1, depth, entries, cs => do
    let (key, rest) ← key? cs
    let rest ← mark? '=' rest
    let (v, rest) ← value? fuel depth (skipBlanks rest)
    let entries ← addValue (.value v) key false true entries
    match skipBlanks rest with
    | ',' :: rest => members? fuel depth entries rest
    | '\x7d' :: rest => some (entries, rest)
    | _ => none

end

/-! ## Lines -/

/-- a document in the making: its entries and the path of the table that lines go to -/
structure State where
  root : Entries := []
  path : List String := []

/-- the table that the lines after a header go to -/
def State.enter (state : State) (path : List String) (opening : String → Entries → Option Entries) : Option State :=
  match path.getLast? with
  | none => none
  | some key => (atPath (opening key) path.dropLast state.root).map fun root => ⟨root, path⟩

/-- adds a key and a value to the table at hand -/
def State.add (state : State) (key : List String) (v : Value) : Option State :=
  (atPath (addValue (.value v) key false true) state.path state.root).map fun root => { state with root }

/-- one line with something on it, and what follows the line -/
def line? (state : State) (cs : List Char) : Option (State × List Char) :=
  match cs with
  | '[' :: '[' :: rest => do
    let (path, rest) ← key? rest
    let rest ← mark? ']' rest
    let rest ← mark? ']' rest
    let rest ← endOfLine? rest
    let state ← state.enter path appendTable
    return (state, rest)
  | '[' :: rest => do
    let (path, rest) ← key? rest
    let rest ← mark? ']' rest
    let rest ← endOfLine? rest
    let state ← state.enter path openTable
    return (state, rest)
  | cs => do
    let (key, rest) ← key? cs
    let rest ← mark? '=' rest
    let rest := skipBlanks rest
    let (v, rest) ← value? (2 * rest.length + 2) 0 rest
    let rest ← endOfLine? rest
    let state ← state.add key v
    return (state, rest)

/-- the remaining lines; the first argument bounds their number -/
def lines? : Nat → State → List Char → Option State
  | 0, _, _ => none
  | fuel + 1, state, cs =>
    match skipBlanks cs with
    | [] => some state
    | '#' :: rest => (endOfLine? ('#' :: rest)).bind (lines? fuel state)
    | cs =>
      match newline? cs with
      | some rest => lines? fuel state rest
      | none => do
        let (state, rest) ← line? state cs
        lines? fuel state rest

/-- the entries of a document; a byte order mark in front of it is passed over -/
def read (s : String) : Option (List (String × Value)) :=
  let cs := match s.toList with
    | '\ufeff' :: cs => cs
    | cs => cs
  (lines? (cs.length + 1) {} cs).map fun state => entryValues state.root

end Telemetry.Toml
