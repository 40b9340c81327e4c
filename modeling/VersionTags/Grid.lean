import VersionTags.Text.Width
/-!
# Tables of text

A grid is drawn with rounded corners, one blank on either side of a cell, and a rule under the heading.  A column is as
wide as its widest line; a cell with line breaks takes several lines.  A grid without rows ends with the rule under
its heading.
-/
namespace VersionTags

structure Grid where
  heading : List String
  rows : List (List String)
  deriving DecidableEq, Repr

namespace Grid

/-- The lines of a cell. -/
def lines (cell : String) : List String := cell.splitOn "\n"

/-- The columns a cell takes. -/
def cellWidth (cell : String) : Nat := ((lines cell).map Text.width).foldl max 0

/-- The width of every column. -/
def widths (g : Grid) : List Nat :=
  g.rows.foldl (fun ws r => List.zipWith max ws (r.map cellWidth)) (g.heading.map cellWidth)

/-- A line of a cell with blanks after it up to the width of its column. -/
def padTo (w : Nat) (s : String) : String := s ++ String.ofList (List.replicate (w - Text.width s) ' ')

/-- A horizontal rule: its left end, its crossings and its right end. -/
def rule (left cross right : String) (ws : List Nat) : String :=
  left ++ cross.intercalate (ws.map fun w => String.ofList (List.replicate (w + 2) '─')) ++ right

/-- One line across all cells of a row. -/
def rowLine (ws : List Nat) (parts : List String) : String :=
  "│" ++ "│".intercalate (List.zipWith (fun w s => " " ++ padTo w s ++ " ") ws parts) ++ "│"

/-- The lines of a row. -/
def rowLines (ws : List Nat) (cells : List String) : List String :=
  let parts := cells.map lines
  let height := (parts.map List.length).foldl max 0
  (List.range height).map fun i => rowLine ws (parts.map fun p => p.getD i "")

/-- The grid as text, its lines separated by line breaks. -/
def render (g : Grid) : String :=
  let ws := g.widths
  let top := rule "╭" "┬" "╮" ws :: rowLines ws g.heading ++ [rule "├" "┼" "┤" ws]
  let body := g.rows.flatMap (rowLines ws)
  "\n".intercalate (if g.rows = [] then top else top ++ body ++ [rule "╰" "┴" "╯" ws])

end Grid
end VersionTags
