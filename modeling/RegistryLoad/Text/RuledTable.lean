/-!
# Ruled tables

A table drawn with box characters: one blank on both sides of a cell, every column as wide as
its widest cell, a double rule under the header and a dashed rule between two rows.

* `RuledTable.lines`: the lines of the drawing, from the top border to the bottom one.
-/

namespace RegistryLoad.Text

/-- On which side of its column a cell stands. -/
inductive Align where
  | left
  | right
  deriving DecidableEq, Repr

/-- A cell of a row, with its side. -/
structure Cell where
  text : List Char
  align : Align
  deriving DecidableEq, Repr

/-- A header and rows of cells.  Every row is expected to have a cell for each header. -/
structure RuledTable where
  header : List (List Char)
  rows : List (List Cell)
  deriving Repr

/-- The characters of one kind of horizontal rule. -/
structure Rule where
  first : Char
  fill : Char
  cross : Char
  last : Char

def topRule : Rule := ⟨'┌', '─', '┬', '┐'⟩
def headerRule : Rule := ⟨'╞', '═', '╪', '╡'⟩
def rowRule : Rule := ⟨'├', '╌', '┼', '┤'⟩
def bottomRule : Rule := ⟨'└', '─', '┴', '┘'⟩

/-- A rule over columns of the given widths, blanks beside the cells included. -/
def Rule.draw (rule : Rule) (widths : List Nat) : List Char :=
  rule.first ::
    [rule.cross].intercalate (widths.map fun w => List.replicate (w + 2) rule.fill) ++ [rule.last]

/-- A cell filled up with blanks to the width of its column, and one blank on both sides. -/
def Cell.draw (cell : Cell) (width : Nat) : List Char :=
  let gap := List.replicate (width - cell.text.length) ' '
  match cell.align with
  | .left => ' ' :: (cell.text ++ gap) ++ [' ']
  | .right => ' ' :: (gap ++ cell.text) ++ [' ']

/-- One row between the outer borders. -/
def drawRow (widths : List Nat) (cells : List Cell) : List Char :=
  '│' :: ['┆'].intercalate (List.zipWith Cell.draw cells widths) ++ ['│']

namespace RuledTable

/-- The header as a row: header cells stand left. -/
def headerRow (t : RuledTable) : List Cell :=
  t.header.map fun text => ⟨text, .left⟩

/-- The width of column `i`: that of its widest cell, the header's included. -/
def width (t : RuledTable) (i : Nat) : Nat :=
  (t.headerRow :: t.rows).foldl
    (fun w row => max w ((row[i]?.map fun cell => cell.text.length).getD 0)) 0

/-- The widths of all columns. -/
def widths (t : RuledTable) : List Nat :=
  (List.range t.header.length).map t.width

/-- The lines of the drawing, top border first. -/
def lines (t : RuledTable) : List (List Char) :=
  let ws := t.widths
  topRule.draw ws :: drawRow ws t.headerRow :: headerRule.draw ws ::
    (t.rows.map (drawRow ws)).intersperse (rowRule.draw ws) ++ [bottomRule.draw ws]

end RuledTable

end RegistryLoad.Text
