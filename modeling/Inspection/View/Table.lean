import Inspection.Text.Split
import Inspection.Text.Width

/-!
# View — Tables

A table has a header and rows of cells in a frame of lines with rounded corners.  A column is as
wide as its widest line; a cell of several lines makes its row as high.  A table without rows is not
closed at the bottom.

* `Table.render`: the text of a table.
-/

namespace Inspection

/-- A table. -/
structure Table where
  header : List String
  rows : List (List String)
deriving DecidableEq, Repr

namespace Table

/-- The lines of a cell. -/
def lines (cell : String) : List (List Char) := Text.splitAll (· == '\n') cell.toList

/-- The widest line of a cell. -/
def cellWidth (cell : String) : Nat := ((lines cell).map Text.displayWidth).foldl max 0

/-- The widths of the columns. -/
def widths (t : Table) : List Nat :=
  t.rows.foldl (fun ws row => (ws.zip row).map fun (w, cell) => max w (cellWidth cell))
    (t.header.map cellWidth)

/-- A line of the frame. -/
def border (left between right : Char) (ws : List Nat) : List Char :=
  [left] ++ Text.joinWith [between] (ws.map fun w => List.replicate (w + 2) '─') ++ [right]

/-- A line of a cell, with the blanks around it. -/
def padded (w : Nat) (line : List Char) : List Char :=
  [' '] ++ line ++ List.replicate (w - Text.displayWidth line) ' ' ++ [' ']

/-- The lines of a row. -/
def rowLines (ws : List Nat) (row : List String) : List (List Char) :=
  let cells := row.map lines
  let height := (cells.map List.length).foldl max 0
  (List.range height).map fun i =>
    let shown := (ws.zip cells).map fun (w, ls) => padded w (ls.getD i [])
    ['│'] ++ Text.joinWith ['│'] shown ++ ['│']

/-- All lines of a table. -/
def allLines (t : Table) : List (List Char) :=
  let ws := t.widths
  [border '╭' '┬' '╮' ws] ++ rowLines ws t.header ++ [border '├' '┼' '┤' ws]
    ++ t.rows.flatMap (rowLines ws)
    ++ (if t.rows.isEmpty then [] else [border '╰' '┴' '╯' ws])

/-- The text of a table, without a break at its end. -/
def render (t : Table) : String := String.ofList (Text.joinWith ['\n'] t.allLines)

end Table

end Inspection
