import Phrasebook.Text.Dotted
import Phrasebook.Text.Width

/-!
# Tables

A table is drawn with a border around it and a double line below its header. Every column is as wide
as its widest cell, with a blank on both sides, and another blank stands between columns. A cell may
have several lines.
-/

namespace Phrasebook.CommandLine

/-- A header and rows with as many cells. -/
structure Table where
  header : List String
  rows : List (List String)

namespace Table

/-- The lines of a cell. -/
def cellLines (cell : String) : List String :=
  Text.splitAt '\n' cell

/-- The width of a cell: that of its widest line. -/
def cellWidth (cell : String) : Nat :=
  ((cellLines cell).map Text.width).foldl max 0

/-- The widths of the columns. -/
def widths (t : Table) : List Nat :=
  t.rows.foldl (fun ws row => ws.zipWith max (row.map cellWidth)) (t.header.map cellWidth)

/-- A line of a cell in a column, with a blank on both sides. -/
def pad (width : Nat) (line : String) : String :=
  " " ++ line ++ String.ofList (List.replicate (width + 1 - Text.width line) ' ')

/-- The line number `k` of a row. -/
def rowLine (ws : List Nat) (row : List (List String)) (k : Nat) : String :=
  "│" ++ " ".intercalate (ws.zipWith (fun w cell => pad w (cell[k]?.getD "")) row) ++ "│"

/-- The lines of a row, as many as its tallest cell has. -/
def rowLines (ws : List Nat) (row : List String) : List String :=
  let cells := row.map cellLines
  (List.range ((cells.map List.length).foldl max 0)).map (rowLine ws cells)

/-- A border from one corner to another. -/
def border (ws : List Nat) (left line right : Char) : String :=
  let inside := ws.foldl (fun n w => n + (w + 2)) (ws.length - 1)
  String.ofList (left :: (List.replicate inside line ++ [right]))

/-- The lines of a table. -/
def lines (t : Table) : List String :=
  let ws := t.widths
  [border ws '┌' '─' '┐'] ++ rowLines ws t.header ++ [border ws '╞' '═' '╡'] ++
    t.rows.flatMap (rowLines ws) ++ [border ws '└' '─' '┘']

end Table

end Phrasebook.CommandLine
