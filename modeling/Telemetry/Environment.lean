import Telemetry.Text.Alphanumeric
import Telemetry.Text.Character
/-
Environment variables, and those that an environment file adds to them.

A variable that is set already, even to nothing, is left as it is, so of two lines for one name the first counts. A line that
cannot be read ends the file; what was read before it stays.
-/
namespace Telemetry.Environment

open Text

/-! ## Logical lines

A line goes on past a line end inside quotes. A `#` after a blank begins a comment, and a line whose first character is `#`
is nothing else. A line that is not finished where the text ends, in quotes or after a blank or a backslash, is not a line,
and nothing follows it.
-/

/-- where in a line a character stands -/
inductive Position where
  /-- outside quotes -/
  | plain
  /-- outside quotes, after a blank -/
  | afterBlank
  /-- outside quotes, after a backslash -/
  | escaped
  | single
  | singleEscaped
  | double
  | doubleEscaped
  deriving DecidableEq, Repr

/-- where the next character stands; none where a comment begins -/
def Position.next (p : Position) (c : Char) : Option Position :=
  match p with
  | .plain =>
    if isBlank c && c != '\n' && c != '\r' then some .afterBlank
    else if c = '\\' then some .escaped
    else if c = '"' then some .double
    else if c = '\'' then some .single
    else some .plain
  | .afterBlank =>
    if c = '#' then none
    else if c = '\\' then some .escaped
    else if c = '"' then some .double
    else if c = '\'' then some .single
    else some .plain
  | .escaped => some .plain
  | .single => some (if c = '\\' then .singleEscaped else if c = '\'' then .plain else .single)
  | .singleEscaped => some .single
  | .double => some (if c = '\\' then .doubleEscaped else if c = '"' then .plain else .double)
  | .doubleEscaped => some .double

/-- what follows the first line end -/
def afterLineEnd : List Char → List Char
  | [] => []
  | c :: cs => if c = '\n' then cs else afterLineEnd cs

/-- the rest of a logical line and what follows it; none if the line is not finished -/
def splitLine : Position → List Char → Option (List Char × List Char)
  | p, [] => if p = .plain then some ([], []) else none
  | p, c :: cs =>
    match p.next c with
    | none => some ([], afterLineEnd cs)
    | some q =>
      if c = '\n' ∧ q = .plain then some ([], cs)
      else (splitLine q cs).map fun parts => (c :: parts.1, parts.2)

theorem length_afterLineEnd_le (cs : List Char) : (afterLineEnd cs).length ≤ cs.length := by
  induction cs with
  | nil => exact Nat.le_refl _
  | cons c cs ih =>
    simp only [afterLineEnd]
    split
    · exact Nat.le_succ _
    · exact Nat.le_succ_of_le ih

theorem length_splitLine_le {p : Position} {cs line rest : List Char} (h : splitLine p cs = some (line, rest)) :
    rest.length ≤ cs.length - 1 := by
  induction cs generalizing p line with
  | nil =>
    simp only [splitLine] at h
    split at h
    · cases h; exact Nat.le_refl _
    · cases h
  | cons c cs ih =>
    simp only [splitLine] at h
    split at h
    · cases h; exact length_afterLineEnd_le cs
    · split at h
      · cases h; exact Nat.le_refl _
      · rcases Option.map_eq_some_iff.1 h with ⟨parts, hparts, heq⟩
        cases heq
        exact Nat.le_trans (ih hparts) (Nat.sub_le _ _)

/-- the line holds nothing but a comment -/
def isComment (cs : List Char) : Bool :=
  ((cs.takeWhile (· != '\n')).dropWhile isBlank).head? == some '#'

/-- the logical lines of a text, comments apart -/
def logicalLines : List Char → List (List Char)
  | [] => []
  | c :: cs =>
    if isComment (c :: cs) then logicalLines (afterLineEnd cs)
    else
      match _ : splitLine .plain (c :: cs) with
      | none => []
      | some (line, rest) => line :: logicalLines rest
termination_by cs => cs.length
decreasing_by
  · exact Nat.lt_succ_of_le (length_afterLineEnd_le cs)
  · exact Nat.lt_succ_of_le (length_splitLine_le ‹_›)

/-! ## Assignments

`NAME=value`, after `export` if so wished. In single quotes every character stands for itself. Outside them a backslash
escapes a quote, a backslash, a dollar sign or a space and `\n` is a line end, and `$NAME` and `${NAME}` give the value of a
variable, or nothing if there is none. Outside quotes a blank ends the value; after it only a comment may follow.
-/

/-- what a line says -/
inductive Meaning where
  | nothing
  | assignment (name value : String)
  | malformed
  deriving DecidableEq, Repr

/-! ### Values -/

/-- how the next character of a value is taken -/
inductive Reading where
  /-- as it stands, unless it is special -/
  | text
  /-- after a backslash -/
  | escaped
  /-- in single quotes -/
  | single
  /-- in the name of a variable -/
  | name (letters : List Char)
  /-- in the name of a variable in braces -/
  | braced (letters : List Char)
  /-- behind the value -/
  | ended
  deriving DecidableEq, Repr

/-- what an escaped character stands for -/
def unescape? (c : Char) : Option Char :=
  if c = 'n' then some '\n'
  else if ['\\', '\'', '"', '$', ' '].contains c then some c
  else none

/-- the value of a variable, or nothing -/
def valueOf (lookup : String → Option String) (letters : List Char) : List Char :=
  ((lookup (String.ofList letters)).getD "").toList

/-- the rest of a value; the flag tells whether it is in double quotes -/
def value? (lookup : String → Option String) : Bool → Reading → List Char → Option (List Char)
  | quoted, reading, [] =>
    match reading with
    | .single | .braced _ => none
    | .name letters => if quoted then none else some (valueOf lookup letters)
    | _ => if quoted then none else some []
  | quoted, .ended, c :: cs =>
    if c = ' ' ∨ c = '\t' then value? lookup quoted .ended cs else if c = '#' then some [] else none
  | quoted, .escaped, c :: cs =>
    match unescape? c with
    | some u => (value? lookup quoted .text cs).map (u :: ·)
    | none => none
  | quoted, .single, c :: cs =>
    if c = '\'' then value? lookup quoted .text cs else (value? lookup quoted .single cs).map (c :: ·)
  | quoted, .name letters, c :: cs =>
    if isAlphanumeric c then value? lookup quoted (.name (letters ++ [c])) cs
    else if c = '\x7b' ∧ letters = [] then value? lookup quoted (.braced []) cs
    else if c = '$' then (value? lookup quoted (.name []) cs).map (valueOf lookup letters ++ ·)
    else (value? lookup quoted .text cs).map fun rest => valueOf lookup letters ++ c :: rest
  | quoted, .braced letters, c :: cs =>
    if c = '\x7d' then (value? lookup quoted .text cs).map (valueOf lookup letters ++ ·)
    else value? lookup quoted (.braced (letters ++ [c])) cs
  | quoted, .text, c :: cs =>
    if c = '$' then value? lookup quoted (.name []) cs
    else if c = '\\' then value? lookup quoted .escaped cs
    else if c = '"' then value? lookup (!quoted) .text cs
    else if quoted then (value? lookup quoted .text cs).map (c :: ·)
    else if c = '\'' then value? lookup quoted .single cs
    else if c = ' ' ∨ c = '\t' then value? lookup quoted .ended cs
    else (value? lookup quoted .text cs).map (c :: ·)

/-! ### Lines -/

def startsName (c : Char) : Bool :=
  c.isAlpha || c == '_'

/-- letters, digits, underscores and points -/
def continuesName (c : Char) : Bool :=
  c.isAlphanum || c == '_' || c == '.'

def name? (cs : List Char) : Option (List Char × List Char) :=
  match cs with
  | c :: _ => if startsName c then some (cs.takeWhile continuesName, cs.dropWhile continuesName) else none
  | [] => none

/-- what follows an equals sign -/
def afterEquals? : List Char → Option (List Char)
  | c :: cs => if c = '=' then some cs else none
  | [] => none

/-- a name, an equals sign and what follows it; `export` is a name of its own only before an equals sign -/
def target? (cs : List Char) : Option (List Char × List Char) := do
  let (name, rest) ← name? cs
  let rest := rest.dropWhile isBlank
  match afterEquals? rest with
  | some rest => return (name, rest)
  | none =>
    if name = ['e', 'x', 'p', 'o', 'r', 't'] then
      let (name, rest) ← name? rest
      let rest ← afterEquals? (rest.dropWhile isBlank)
      return (name, rest)
    else none

/-- what a line says, given the variables before it -/
def meaning (lookup : String → Option String) (line : List Char) : Meaning :=
  match trimmed line with
  | [] => .nothing
  | '#' :: _ => .nothing
  | cs =>
    match target? cs with
    | none => .malformed
    | some (name, rest) =>
      match rest.dropWhile isBlank with
      | [] => .assignment (String.ofList name) ""
      | '#' :: _ => .assignment (String.ofList name) ""
      | rest =>
        match value? lookup false .text rest with
        | some value => .assignment (String.ofList name) (String.ofList value)
        | none => .malformed

/-! ## Files -/

/-- the variables with one added, unless it is set -/
def withVariable (lookup : String → Option String) (name value : String) : String → Option String :=
  fun wanted => (lookup wanted).or (if wanted = name then some value else none)

/-- the variables with those of some lines added -/
def withLines (lookup : String → Option String) : List (List Char) → String → Option String
  | [] => lookup
  | line :: lines =>
    match meaning lookup line with
    | .nothing => withLines lookup lines
    | .assignment name value => withLines (withVariable lookup name value) lines
    | .malformed => lookup

/-- the characters of a file without a byte order mark in front -/
def withoutMark : List Char → List Char
  | '\ufeff' :: cs => cs
  | cs => cs

/-- the variables with those of an environment file added -/
def withFile (lookup : String → Option String) (content : String) : String → Option String :=
  withLines lookup (logicalLines (withoutMark content.toList))

/-- names that the values in a file may refer to -/
def mentioned : List Char → List String
  | [] => []
  | c :: cs =>
    if c = '$' then
      let letters := match cs with
        | '\x7b' :: rest => rest.takeWhile (· != '\x7d')
        | rest => rest.takeWhile Text.isAlphanumeric
      String.ofList letters :: mentioned cs
    else mentioned cs

end Telemetry.Environment
