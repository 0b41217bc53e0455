import AppRelease.Text.Cut
import AppRelease.Text.Columns

/-!
# Tables

Program: `Table.render` draws a table with lines around it. A column is as wide as the widest line
in it, and every cell has a blank on each side. A cell may have several lines; the others of its row
are filled up.

Crux: every drawn line is made of one piece for each column, so all lines are equally wide.
-/

namespace AppRelease

/-- Where a text stands in its column. -/
inductive Alignment where
  | left
  | center
  deriving DecidableEq, Repr

/-- A text in a table. -/
structure Cell where
  text : String
  alignment : Alignment := .left
  deriving DecidableEq, Repr

namespace Cell

/-- The lines of a cell; there is always one. -/
def lines (c : Cell) : List (List Char) := Text.pieces '\n' c.text.toList

/-- The columns of a terminal that a cell takes. -/
def width (c : Cell) : Nat := (c.lines.map Text.width).foldl max 0

/-- A line filled up to a width. The odd blank of a line in the middle goes to its left. -/
def fill (alignment : Alignment) (width : Nat) (line : List Char) : List Char :=
  let missing := width - Text.width line
  match alignment with
  | .left => line ++ List.replicate missing ' '
  | .center =>
    List.replicate (missing - missing / 2) ' ' ++ line ++ List.replicate (missing / 2) ' '

/-- A line of a cell by its number, with a blank on each side; empty after the last. -/
def lineAt (c : Cell) (width index : Nat) : List Char :=
  ' ' :: (fill c.alignment width (c.lines.getD index []) ++ [' '])

end Cell

/-- A table with an optional header. -/
structure Table where
  header : List Cell := []
  rows : List (List Cell) := []
  deriving DecidableEq, Repr

namespace Table

/-- How a line is drawn: its start, what fills it, what parts the columns, and its end. -/
structure Rule where
  start : Char
  fill : Char
  division : Char
  finish : Char

/-- Above the table. -/
def top : Rule := ⟨'┌', '─', '┬', '┐'⟩

/-- Between two rows. -/
def between : Rule := ⟨'├', '╌', '┼', '┤'⟩

/-- Below the header. -/
def belowHeader : Rule := ⟨'╞', '═', '╪', '╡'⟩

/-- Below the table. -/
def bottom : Rule := ⟨'└', '─', '┴', '┘'⟩

/-- Pieces with something between them. -/
def join (division : Char) : List (List Char) → List Char
  | [] => []
  | [piece] => piece
  | piece :: rest => piece ++ division :: join division rest

/-- A drawn line for columns of some widths. -/
def Rule.draw (r : Rule) (widths : List Nat) : List Char :=
  r.start :: (join r.division (widths.map fun w => List.replicate (w + 2) r.fill) ++ [r.finish])

/-- The width of every column. -/
def widths (t : Table) : List Nat :=
  let all := t.header :: t.rows
  let columns := (all.map List.length).foldl max 0
  (List.range columns).map fun i =>
    (all.map fun row => ((row[i]?).map Cell.width).getD 0).foldl max 0

/-- The lines of a row. -/
def rowLines (widths : List Nat) (row : List Cell) : List (List Char) :=
  let height := (row.map fun c => c.lines.length).foldl max 0
  (List.range height).map fun index =>
    '│' :: (join '┆' ((row.zip widths).map fun (c, w) => c.lineAt w index) ++ ['│'])

/-- The lines of rows with a line between any two. -/
def rowsLines (widths : List Nat) : List (List Cell) → List (List Char)
  | [] => []
  | [row] => rowLines widths row
  | row :: rest => rowLines widths row ++ between.draw widths :: rowsLines widths rest

/-- The lines of a table. -/
def lines (t : Table) : List (List Char) :=
  let w := t.widths
  top.draw w
    :: ((if t.header.isEmpty then [] else rowLines w t.header ++ [belowHeader.draw w])
      ++ rowsLines w t.rows ++ [bottom.draw w])

/-- A table drawn with lines. -/
def render (t : Table) : String := Text.joinWith "\n" (t.lines.map String.ofList)

end Table

end AppRelease
