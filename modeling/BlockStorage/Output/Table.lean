import BlockStorage.Text.Blank

/-!
Tables: rows of cells, aligned in columns.

A column is as wide as its widest cell and two blanks more, and no line ends with blanks. Widths
count characters.
-/

namespace BlockStorage.Output

open Text

/-- A row of cells. -/
abbrev Row := List String

/-- The blanks between neighbouring columns. -/
def columnGap : Nat := 2

/-- The greater of the widths at each place of two lists of widths. -/
def mergeWidths : List Nat → List Nat → List Nat
  | [], ws => ws
  | vs, [] => vs
  | v :: vs, w :: ws => max v w :: mergeWidths vs ws

/-- The width of each column, with the gap behind it. -/
def columnWidths (rows : List Row) : List Nat :=
  rows.foldl (fun widths row => mergeWidths widths (row.map fun cell => cell.length + columnGap)) []

/-- The cells of a row, each but the last filled up to the width of its column. -/
def alignedCells : List Nat → Row → List Char
  | _, [] => []
  | _, [cell] => cell.toList
  | [], cell :: cells => cell.toList ++ alignedCells [] cells
  | width :: widths, cell :: cells =>
    cell.toList ++ List.replicate (width - cell.length) ' ' ++ alignedCells widths cells

/-- The line of a row. -/
def rowLine (widths : List Nat) (row : Row) : String :=
  String.ofList (trimEnd (alignedCells widths row))

/-- The pieces of a line: its text and the line break. -/
def linePieces (line : String) : List String := [line, "\n"]

/-- The pieces of a table, one line a row. -/
def tablePieces (rows : List Row) : List String :=
  let widths := columnWidths rows
  rows.flatMap fun row => linePieces (rowLine widths row)

/-- A row of a name and a value. -/
def pairRow (key value : String) : Row := [key ++ ":", value]

end BlockStorage.Output
