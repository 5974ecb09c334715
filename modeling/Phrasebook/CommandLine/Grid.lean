import Phrasebook.Text.Fields
import Phrasebook.Text.Width

/-!
# Grids

A grid is a header and rows of cells, drawn in a frame. Every column is as wide as its widest cell,
cells have a blank on both sides, and columns stand one blank apart. A cell with several lines makes
its row as high.
-/
namespace Phrasebook.CommandLine

structure Grid where
  header : List String
  rows : List (List String)

namespace Grid

/-- The lines of a cell. -/
def cellLines (cell : String) : List (List Char) :=
  let (first, others) := Text.fields '\n' cell.toList
  first :: others

def cellWidth (cell : String) : Nat :=
  ((cellLines cell).map Text.width).foldl max 0

/-- Make columns as wide as the cells of a row. -/
def widen (widths : List Nat) (row : List String) : List Nat :=
  widths.zipWith max (row.map cellWidth)

/-- The widths of the columns. -/
def widths (grid : Grid) : List Nat :=
  grid.rows.foldl widen (grid.header.map cellWidth)

/-- One line of a row: the lines of its cells that stand at the same height. -/
def rowLine (widths : List Nat) (lines : List (List Char)) : String :=
  let cells := widths.zipWith (fun width line => " " ++ String.ofList (Text.padRight width line)
    ++ " ") lines
  "│" ++ String.intercalate " " cells ++ "│"

/-- A row, as many lines high as its highest cell. -/
def rowLines (widths : List Nat) (row : List String) : List String :=
  let cells := row.map cellLines
  let height := (cells.map List.length).foldl max 0
  (List.range height).map fun n => rowLine widths (cells.map fun lines => (lines[n]?).getD [])

/-- A line of the frame. -/
def border (left line right : String) (widths : List Nat) : String :=
  let inner := widths.foldl (fun columns width => columns + width + 2) (widths.length - 1)
  left ++ String.join (List.replicate inner line) ++ right

/-- The lines of a grid. -/
def lines (grid : Grid) : List String :=
  let widths := grid.widths
  [border "┌" "─" "┐" widths]
    ++ rowLines widths grid.header
    ++ [border "╞" "═" "╡" widths]
    ++ grid.rows.flatMap (rowLines widths)
    ++ [border "└" "─" "┘" widths]

end Grid

end Phrasebook.CommandLine
