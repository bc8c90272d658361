import Telemetry.Text.Cut
import Telemetry.Text.Width
/-
Tables in a frame.

Every column is as wide as its widest line with a blank on either side; cells are left aligned, and a cell of several lines
makes its row as high. The line under the header is unbroken, the lines between rows meet the frame at both sides.
-/
namespace Telemetry.Text

/-- a header and rows of cells -/
structure Table where
  header : List String
  rows : List (List String)
  deriving DecidableEq, Repr

/-- the columns a cell takes: those of its widest line -/
def cellWidth (cell : String) : Nat :=
  ((cutAt '\n' cell.toList).map displayWidth).foldl max 0

/-- the wider of two rows of widths, place by place -/
def widest : List Nat → List Nat → List Nat
  | a :: as, b :: bs => max a b :: widest as bs
  | as, [] => as
  | [], bs => bs

/-- characters with blanks behind up to a width -/
def padTo (width : Nat) (cs : List Char) : List Char :=
  cs ++ List.replicate (width - displayWidth cs) ' '

namespace Table

/-- how wide each column is, blanks apart -/
def widths (t : Table) : List Nat :=
  t.rows.foldl (fun ws row => widest ws (row.map cellWidth)) (t.header.map cellWidth)

def ruleLine (left fill joint right : Char) (widths : List Nat) : List Char :=
  left :: joinLists [joint] (widths.map fun w => List.replicate (w + 2) fill) ++ [right]

def rowLine (widths : List Nat) (cells : List (List (List Char))) (line : Nat) : List Char :=
  '|' :: joinLists ['|'] (List.zipWith (fun w ls => ' ' :: padTo w (ls.getD line []) ++ [' ']) widths cells) ++ ['|']

def rowLines (widths : List Nat) (row : List String) : List (List Char) :=
  let cells := row.map fun cell => cutAt '\n' cell.toList
  let height := (cells.map List.length).foldl max 0
  (List.range height).map (rowLine widths cells)

/-- rows with a line between neighbours -/
def bodyLines (widths : List Nat) : List (List String) → List (List Char)
  | [] => []
  | [row] => rowLines widths row
  | row :: rows => rowLines widths row ++ ruleLine '|' '-' '+' '|' widths :: bodyLines widths rows

def lines (t : Table) : List (List Char) :=
  let ws := t.widths
  ruleLine '+' '-' '+' '+' ws :: rowLines ws t.header ++ ruleLine '+' '=' '=' '+' ws :: bodyLines ws t.rows
    ++ [ruleLine '+' '-' '+' '+' ws]

/-- the table as text, without a line end after the last line -/
def text (t : Table) : String :=
  String.ofList (joinLists ['\n'] t.lines)

end Table

end Telemetry.Text
