import TypedChannel.Text.Width
/-!
# TypedChannel.Text.Table

Tables drawn with box characters.

1. A column is as wide as its widest cell line, with one blank on either side;
   cells are aligned to the left.
2. A line feed in a cell starts a new line in it; the cells beside it are
   filled up with blank lines.
3. The header stands over a double line, and the rows are parted by dashed
   lines.
-/

namespace TypedChannel.Text.Table

/-- The lines of a cell. -/
def cellLines (cell : String) : List String := cell.splitOn "\n"

/-- The columns that a cell takes. -/
def cellWidth (cell : String) : Nat := ((cellLines cell).map width).foldl max 0

/-- For each column the width of its widest cell. -/
def columnWidths (rows : List (List String)) : List Nat :=
  rows.foldl
    (fun widths row =>
      let own := row.map cellWidth
      List.zipWith max (widths ++ List.replicate (own.length - widths.length) 0)
        (own ++ List.replicate (widths.length - own.length) 0))
    []

/-- `n` copies of a text. -/
def copies (n : Nat) (s : String) : String := String.join (List.replicate n s)

/-- A rule across all columns. -/
def rule (left fill cross right : String) (widths : List Nat) : String :=
  left ++ cross.intercalate (widths.map fun w => copies (w + 2) fill) ++ right

/-- One line of a cell, filled up to its column. -/
def padded (w : Nat) (line : String) : String := " " ++ line ++ copies (w - width line) " " ++ " "

/-- Line `n` of a row. -/
def rowLine (widths : List Nat) (row : List String) (n : Nat) : String :=
  let cells := List.zipWith (fun w cell => padded w ((cellLines cell)[n]?.getD "")) widths row
  "│" ++ "┆".intercalate cells ++ "│"

/-- All lines of a row. -/
def rowLines (widths : List Nat) (row : List String) : List String :=
  let height := (row.map fun cell => (cellLines cell).length).foldl max 0
  (List.range height).map (rowLine widths row)

/-- The lines of rows with a rule between any two. -/
def bodyLines (widths : List Nat) : List (List String) → List String
  | [] => []
  | [row] => rowLines widths row
  | row :: rest => rowLines widths row ++ [rule "├" "╌" "┼" "┤" widths] ++ bodyLines widths rest

/-- A table, without a line feed at its end. -/
def draw (header : List String) (rows : List (List String)) : String :=
  let widths := columnWidths (header :: rows)
  let lines := [rule "┌" "─" "┬" "┐" widths] ++ rowLines widths header
    ++ [rule "╞" "═" "╪" "╡" widths] ++ bodyLines widths rows ++ [rule "└" "─" "┴" "┘" widths]
  "\n".intercalate lines

end TypedChannel.Text.Table
