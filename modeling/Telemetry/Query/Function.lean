import Telemetry.Error
import Telemetry.Text.Character
/-
Functions of the query language: aggregations over one field, and arithmetic between two.

Names are read without regard to ASCII case and to blanks around them; arithmetic may also be named by its operator.
-/
namespace Telemetry.Query

open Text

/-- a function over the values of a field -/
inductive Aggregation where
  | mean | min | max | count | median | sum | spread | stddev | first | last
  deriving DecidableEq, Repr

namespace Aggregation

def all : List Aggregation :=
  [.mean, .min, .max, .count, .median, .sum, .spread, .stddev, .first, .last]

/-- the function's name in query text -/
def name : Aggregation → String
  | .mean => "mean"
  | .min => "min"
  | .max => "max"
  | .count => "count"
  | .median => "median"
  | .sum => "sum"
  | .spread => "spread"
  | .stddev => "stddev"
  | .first => "first"
  | .last => "last"

def read (s : String) : Except ServiceError Aggregation :=
  match all.find? fun f => sameIgnoringCase f.name (trim s) with
  | some f => .ok f
  | none => .error (.invalidAggregation s)

end Aggregation

/-- arithmetic between two fields -/
inductive MathFunction where
  | add | subtract | multiply | divide
  deriving DecidableEq, Repr

namespace MathFunction

def all : List MathFunction :=
  [.add, .subtract, .multiply, .divide]

def operator : MathFunction → String
  | .add => "+"
  | .subtract => "-"
  | .multiply => "*"
  | .divide => "/"

/-- the function's name in result columns -/
def name : MathFunction → String
  | .add => "Add"
  | .subtract => "Subtract"
  | .multiply => "Multiply"
  | .divide => "Divide"

def read (s : String) : Except ServiceError MathFunction :=
  match all.find? fun f => sameIgnoringCase f.name (trim s) || f.operator == trim s with
  | some f => .ok f
  | none => .error (.invalidMathFunction s)

end MathFunction

end Telemetry.Query
