import ApprovalFlow.Text.Parts
import ApprovalFlow.Text.Width

/-!
# Tables

A table is drawn with a border above and below every row. A column is as wide as its widest cell,
with a blank on either side. A line break in a cell starts a new line of the row, and cells with
fewer lines than the row has are filled up with blanks.
-/

namespace ApprovalFlow.Report

/-- A header and rows of as many cells. -/
structure Table where
  header : List String
  rows : List (List String)
  deriving DecidableEq, Repr

namespace Table

/-- The lines of a cell. -/
def cellLines (cell : String) : List (List Char) :=
  Text.partsList '\n' cell.toList

/-- The columns a cell takes. -/
def cellWidth (cell : String) : Nat :=
  ((cellLines cell).map Text.columns).foldl max 0

/-- All rows, the header first. -/
def allRows (t : Table) : List (List String) :=
  t.header :: t.rows

/-- The widths of two rows, column by column. -/
def widest : List Nat → List Nat → List Nat
  | [], widths => widths
  | widths, [] => widths
  | a :: as, b :: bs => max a b :: widest as bs

/-- The widths of the columns. -/
def widths (t : Table) : List Nat :=
  (t.allRows.map fun row => row.map cellWidth).foldl widest []

/-- A border. -/
def border (widths : List Nat) : List Char :=
  '+' :: widths.flatMap fun w => List.replicate (w + 2) '-' ++ ['+']

/-- A line of a cell, filled up to a width, with a blank on either side. -/
def padded (width : Nat) (line : List Char) : List Char :=
  ' ' :: line ++ List.replicate (width - Text.columns line) ' ' ++ [' ']

/-- One line of a row. -/
def rowLine (widths : List Nat) (lines : List (List Char)) : List Char :=
  '|' :: (widths.zip lines).flatMap fun cell => padded cell.1 cell.2 ++ ['|']

/-- The lines of a row. -/
def rowLines (widths : List Nat) (row : List String) : List (List Char) :=
  let cells := row.map cellLines
  let height := (cells.map List.length).foldl max 0
  (List.range height).map fun i => rowLine widths (cells.map fun lines => lines.getD i [])

/-- The lines of the table. -/
def lines (t : Table) : List (List Char) :=
  let widths := t.widths
  border widths :: t.allRows.flatMap fun row => rowLines widths row ++ [border widths]

/-- The table as a text, without a line break at its end. -/
def text (t : Table) : String :=
  String.intercalate "\n" (t.lines.map String.ofList)

end Table

end ApprovalFlow.Report
