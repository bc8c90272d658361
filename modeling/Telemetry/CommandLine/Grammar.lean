/-
Command lines: options, flags and one operand, read from left to right.

An option takes a fixed number of values, which follow it or, a single one, stand behind `=`. What an option was given is
judged when the next option, the operand or the end of the line is reached; an unknown argument comes before that. After `--`
everything is an operand. When the line has been read, arguments that exclude each other are found first, then missing ones.
-/
namespace Telemetry.CommandLine

/-- why a command line is refused, or answered with a text about the tool -/
inductive UsageError where
  | missingCommand
  | unknownCommand
  | unknownArgument
  /-- an option without its value, or an empty path -/
  | missingValue
  | wrongValueCount
  /-- a flag with a value behind `=` -/
  | unneededValue
  /-- arguments that exclude each other, or one given twice -/
  | conflict
  | missingArgument
  | helpAsked
  | versionAsked
  deriving DecidableEq, Repr

/-- an option, a flag or the operand -/
structure Argument where
  name : String
  /-- how many values it takes; a flag takes none -/
  values : Nat := 1
  /-- may be given more than once -/
  repeats : Bool := false
  /-- its value is a path, which is not empty -/
  isPath : Bool := false
  deriving DecidableEq, Repr

/-- the arguments of a command -/
structure Grammar where
  options : List Argument := []
  operand : Option Argument := none
  /-- names of arguments that must be given -/
  required : List String := []
  /-- pairs that exclude each other -/
  conflicts : List (String × String) := []
  /-- pairs of which the first asks for the second -/
  requires : List (String × String) := []
  deriving DecidableEq, Repr

/-- the values of the arguments that were given, by name; a flag has none -/
abbrev Given := List (String × List String)

namespace Given

def has (given : Given) (name : String) : Bool :=
  (given.lookup name).isSome

def values (given : Given) (name : String) : List String :=
  (given.lookup name).getD []

def value? (given : Given) (name : String) : Option String :=
  (given.values name).head?

/-- the arguments with more values of one of them -/
def add (given : Given) (name : String) (values : List String) : Given :=
  match given with
  | [] => [(name, values)]
  | (n, vs) :: rest => if n = name then (n, vs ++ values) :: rest else (n, vs) :: add rest name values

end Given

/-- how far a command line has been read -/
structure Reading where
  given : Given := []
  /-- the last option or operand and its values so far, not judged yet -/
  pending : Option (Argument × List String) := none
  operandsOnly : Bool := false

namespace Reading

/-- judges what an argument was given and keeps it -/
def accept (given : Given) (a : Argument) (values : List String) : Except UsageError Given :=
  if values.isEmpty ∧ a.values ≠ 0 then .error .missingValue
  else if values.length ≠ a.values then .error .wrongValueCount
  else if given.has a.name ∧ !a.repeats then .error .conflict
  else if a.isPath ∧ values.contains "" then .error .missingValue
  else .ok (given.add a.name values)

def settle (r : Reading) : Except UsageError Reading :=
  match r.pending with
  | none => .ok r
  | some (a, values) => (accept r.given a values).map fun given => { r with given, pending := none }

/-- takes the operand, which is given once -/
def takeOperand (g : Grammar) (r : Reading) (value : String) : Except UsageError Reading :=
  match g.operand with
  | none => .error .unknownArgument
  | some a =>
    if r.given.has a.name || r.pending.any (·.1 == a) then .error .unknownArgument
    else r.settle.map fun r => { r with pending := some (a, [value]) }

/-- takes a value of the pending option, or else the operand -/
def takeValue (g : Grammar) (r : Reading) (value : String) : Except UsageError Reading :=
  match r.pending with
  | some (a, values) =>
    if values.length < a.values then .ok { r with pending := some (a, values ++ [value]) } else takeOperand g r value
  | none => takeOperand g r value

/-- takes an option or a flag, with the value behind `=` if there is one -/
def takeOption (r : Reading) (a : Argument) : Option String → Except UsageError Reading
  | some value =>
    if a.values = 0 then .error .unneededValue
    else do
      let r ← r.settle
      let given ← accept r.given a [value]
      return { r with given }
  | none => do
    let r ← r.settle
    if a.values = 0 then
      let given ← accept r.given a []
      return { r with given }
    else return { r with pending := some (a, []) }

end Reading

/-- the name behind the hyphens and the value behind `=` -/
def splitOption (cs : List Char) : String × Option String :=
  (String.ofList (cs.takeWhile (· != '=')),
    match cs.dropWhile (· != '=') with
    | _ :: value => some (String.ofList value)
    | [] => none)

namespace Grammar

/-- takes `--name` or `--name=value` -/
def takeLong (g : Grammar) (r : Reading) (name : String) (value : Option String) : Except UsageError Reading :=
  match g.options.find? (·.name == name) with
  | some a => r.takeOption a value
  | none =>
    if name = "help" then
      if value.isSome then .error .unneededValue else r.settle.bind fun _ => .error .helpAsked
    else .error .unknownArgument

/-- takes one word of the command line -/
def take (g : Grammar) (r : Reading) (word : String) : Except UsageError Reading :=
  if r.operandsOnly then r.takeOperand g word
  else
    match word.toList with
    | ['-', '-'] => .ok { r with operandsOnly := true }
    | '-' :: '-' :: cs => let (name, value) := splitOption cs; g.takeLong r name value
    | '-' :: 'h' :: _ => r.settle.bind fun _ => .error .helpAsked
    | '-' :: _ :: _ => .error .unknownArgument
    | _ => r.takeValue g word

/-- finds arguments that exclude each other, then missing ones -/
def check (g : Grammar) (given : Given) : Except UsageError Given :=
  if g.conflicts.any fun pair => given.has pair.1 && given.has pair.2 then .error .conflict
  else if g.required.any fun name => !given.has name then .error .missingArgument
  else if g.requires.any fun pair => given.has pair.1 && !given.has pair.2 then .error .missingArgument
  else .ok given

/-- the arguments in a command line -/
def read (g : Grammar) (words : List String) : Except UsageError Given := do
  let r ← words.foldlM g.take {}
  let r ← r.settle
  g.check r.given

end Grammar

/-! ## Commands -/

/-- a command of a tool, and what its arguments mean -/
structure Command (α : Type) where
  name : String
  grammar : Grammar
  meaning : Given → α

variable {α : Type}

def command? (commands : List (Command α)) (name : String) : Option (Command α) :=
  commands.find? (·.name == name)

/-- the word names a command, the one that explains the others included -/
def isCommandName (commands : List (Command α)) (word : String) : Bool :=
  word == "help" || (command? commands word).isSome

/-- what follows the command that explains the others: nothing, or the name of a command -/
def readHelp (commands : List (Command α)) : List String → UsageError
  | [] => .helpAsked
  | [word] => if isCommandName commands word then .helpAsked else .unknownCommand
  | _ => .unknownCommand

/-- why a first word that names no command is refused -/
def refuseFirst (commands : List (Command α)) (word : String) (rest : List String) : UsageError :=
  match word.toList with
  | ['-', '-'] =>
    match rest with
    | [] => .missingCommand
    | next :: _ => if isCommandName commands next then .unknownArgument else .unknownCommand
  | '-' :: '-' :: cs =>
    let (name, value) := splitOption cs
    if name = "help" ∨ name = "version" then
      if value.isSome then .unneededValue else if name = "help" then .helpAsked else .versionAsked
    else .unknownArgument
  | '-' :: 'h' :: _ => .helpAsked
  | '-' :: 'V' :: _ => .versionAsked
  | '-' :: _ :: _ => .unknownArgument
  | _ => .unknownCommand

/-- what a command line of a tool means -/
def readCommand (commands : List (Command α)) : List String → Except UsageError α
  | [] => .error .missingCommand
  | word :: rest =>
    match command? commands word with
    | some c => (c.grammar.read rest).map c.meaning
    | none => .error (if word = "help" then readHelp commands rest else refuseFirst commands word rest)

end Telemetry.CommandLine
