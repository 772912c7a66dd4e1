import DeviceSessions.Text.Ascii
import DeviceSessions.Text.Columns

/-!
# Tables in boxes

A table drawn with lines around its cells and one below its headings. Cells may have several lines.
-/

namespace DeviceSessions.Text

/-- A cell: its lines. -/
abbrev Cell := List (List Char)

namespace Cell

/-- The cell of a text. -/
def ofText (text : String) : Cell := splitAt '\n' text.toList

/-- The columns of the widest line. -/
def width (c : Cell) : Nat := (c.map columns).foldl max 0

/-- A line of the cell, with blanks up to a width and one at each side. -/
def line (c : Cell) (width i : Nat) : List Char :=
  let cs := c.getD i []
  ' ' :: cs ++ List.replicate (width - columns cs) ' ' ++ [' ']

end Cell

/-- The widths of the columns of a table, the largest of each. -/
def widths (table : List (List Cell)) : List Nat :=
  match table with
  | [] => []
  | row :: rows =>
    rows.foldl (fun ws row => List.zipWith max ws (row.map Cell.width)) (row.map Cell.width)

/-- A line across the table, with marks at its ends and between its columns. -/
def ruled (left between right : Char) (widths : List Nat) : List Char :=
  left :: [between].intercalate (widths.map fun w => List.replicate (w + 2) '─') ++ [right]

/-- The lines of a row. -/
def rowLines (widths : List Nat) (row : List Cell) : List (List Char) :=
  let height := (row.map List.length).foldl max 0
  (List.range height).map fun i =>
    '│' :: ['│'].intercalate (List.zipWith (fun (c : Cell) w => c.line w i) row widths) ++ ['│']

/-- The lines of a table with headings. -/
def boxLines (headings : List Cell) (rows : List (List Cell)) : List (List Char) :=
  let ws := widths (headings :: rows)
  ruled '┌' '┬' '┐' ws :: rowLines ws headings ++ ruled '├' '┼' '┤' ws ::
    rows.flatMap (rowLines ws) ++ [ruled '└' '┴' '┘' ws]

/-- The text of a table with headings, every line ended. -/
def boxed (headings : List String) (rows : List (List String)) : String :=
  String.ofList ((boxLines (headings.map Cell.ofText)
    (rows.map fun row => row.map Cell.ofText)).flatMap (· ++ ['\n']))

end DeviceSessions.Text
