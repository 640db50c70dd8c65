import PeripheralBridge.Text.Padding
import PeripheralBridge.Text.Wrapping

/-!
# Tables

A table is drawn in boxes. The cells of a column stand at its left, with a space on either
side, and a cell that is wider than its column goes on in further lines. A double rule
divides the header from the rows, a dashed one each row from the next.

How wide the columns are is arranged by the screen. A terminal gives them what room it has;
where the output has no width of its own, each is as wide as its widest cell.
-/

namespace PeripheralBridge

structure Table where
  header : List String
  rows : List (List String)
  deriving DecidableEq, Repr

namespace Table

/-- The width that each column of a table is given, by its place. -/
abbrev Arrangement : Type := Table → Nat → Nat

/-- Widths are counted in sixteen bits. -/
def widest : Nat := 65535

def contentWidths (t : Table) : List Nat :=
  let width (s : String) : Nat := min widest (Width.ofText s)
  t.rows.foldl (fun ws row => ws.zipWith max (row.map width)) (t.header.map width)

/-- The arrangement of an output without a width of its own. -/
def unbounded : Arrangement := fun t i => t.contentWidths.getD i 0

/-- The widths of the columns, in order. -/
def widths (arrange : Arrangement) (t : Table) : List Nat :=
  (List.range t.header.length).map (arrange t)

/-- The width of a column and the spaces beside it. -/
def outer (width : Nat) : Nat := min widest (width + 2)

/-- A line between two rows of cells. -/
def rule (left fill crossing right : Char) (widths : List Nat) : String :=
  let span (w : Nat) : String := String.ofList (List.replicate (outer w) fill)
  String.singleton left ++ (String.singleton crossing).intercalate (widths.map span)
    ++ String.singleton right

/-- A line of a cell at the left of its column. A cell that has no such line is blank there. -/
def cellLine (width : Nat) (line? : Option String) : String :=
  match line? with
  | some line => " " ++ line ++ Padding.spaces (width - Width.ofText line) ++ " "
  | none => Padding.spaces (outer width)

/-- The cells of a row, each with the width of its column and divided into lines. -/
def wrap (widths : List Nat) (cells : List String) : List (Nat × List String) :=
  widths.zipWith (fun w cell => (w, Wrapping.lines w cell)) cells

/-- The line of a row that has the given line of each of its cells. -/
def rowLine (columns : List (Nat × List String)) (i : Nat) : String :=
  "│" ++ "┆".intercalate (columns.map fun c => cellLine c.1 c.2[i]?) ++ "│"

/-- The lines of a row of cells, as many as its longest cell takes. -/
def row (widths : List Nat) (cells : List String) : List String :=
  let columns := wrap widths cells
  let height := (columns.map fun c => c.2.length).foldl max 0
  (List.range height).map (rowLine columns)

def lines (arrange : Arrangement) (t : Table) : List String :=
  let w := t.widths arrange
  let head := rule '┌' '─' '┬' '┐' w :: row w t.header
  let body := [rule '├' '╌' '┼' '┤' w].intercalate (t.rows.map (row w))
  head ++ rule '╞' '═' '╪' '╡' w :: body ++ [rule '└' '─' '┴' '┘' w]

def text (arrange : Arrangement) (t : Table) : String := "\n".intercalate (t.lines arrange)

end Table

end PeripheralBridge
