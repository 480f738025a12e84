import Settings.Terminal.Wrap

/-!
# Tables of two columns

A table has a heading over each column and a row for each pair.  Columns are as wide as
their widest line, a cell of several lines makes its row as high, and every line of a cell
has one space on either side.  The title stands above the table, in the middle.

## Main definitions

* `columnWidth`, `Table.widths` — the widths of the columns.
* `Table.body` — the lines of the rows; `Table.lines` — those of the whole table.
-/

namespace Settings.Terminal

open Text

/-- A table of two columns. -/
structure Table where
  /-- The title. -/
  title : List Char
  /-- The headings of the columns. -/
  headings : List Char × List Char
  /-- The rows. -/
  rows : List (List Char × List Char)
  deriving DecidableEq, Repr, Inhabited

/-- The code points of the characters that end a line where a column is measured. -/
def lineEndRanges : List (Nat × Nat) :=
  [(0x0A, 0x0D), (0x1C, 0x1E), (0x85, 0x85), (0x2028, 0x2029)]

/-- The character ends a line where a column is measured. -/
def endsLine (c : Char) : Bool := inRanges lineEndRanges c

/-- The width of the widest line of a text. -/
def lineWidth (cs : List Char) : Nat :=
  ((Text.lines (cs.map fun c => if endsLine c then '\n' else c)).map textWidth).foldl max 0

/-- The width of a column with these cells. -/
def columnWidth (cells : List (List Char)) : Nat := (cells.map lineWidth).foldl max 0

/-- A line with spaces after it up to a width. -/
def padTo (width : Nat) (cs : List Char) : List Char :=
  cs ++ List.replicate (width - textWidth cs) ' '

/-- A line in the middle of a width. -/
def centre (width : Nat) (cs : List Char) : List Char :=
  List.replicate ((width - textWidth cs) / 2) ' ' ++ cs

/-- The lines of a cell. -/
def cellLines (width : Nat) (cs : List Char) : List (List Char) :=
  (wrap .ellipsis width cs).map (truncate .ellipsis width)

/-- The lines of a cell, filled up to a width and a height. -/
def filledLines (width height : Nat) (cs : List Char) : List (List Char) :=
  let ls := cellLines width cs
  (ls ++ List.replicate (height - ls.length) []).map (padTo width)

namespace Table

/-- The widths of the columns. -/
def widths (t : Table) : Nat × Nat :=
  (columnWidth (t.headings.1 :: t.rows.map Prod.fst),
   columnWidth (t.headings.2 :: t.rows.map Prod.snd))

/-- The width of the whole table, with borders and spaces. -/
def width (t : Table) : Nat := t.widths.1 + t.widths.2 + 7

/-- A line of border: corners and the line between. -/
def border (t : Table) (left line middle right : Char) : List Char :=
  left :: List.replicate (t.widths.1 + 2) line ++ middle ::
    List.replicate (t.widths.2 + 2) line ++ [right]

/-- A line of two cells between borders. -/
def cells (side : Char) (p : List Char × List Char) : List Char :=
  side :: ' ' :: p.1 ++ ' ' :: side :: ' ' :: p.2 ++ [' ', side]

/-- The lines of a row. -/
def rowLines (t : Table) (side : Char) (p : List Char × List Char) : List (List Char) :=
  let height := max (cellLines t.widths.1 p.1).length (cellLines t.widths.2 p.2).length
  ((filledLines t.widths.1 height p.1).zip (filledLines t.widths.2 height p.2)).map (cells side)

/-- The lines of the rows. -/
def body (t : Table) : List (List Char) := t.rows.flatMap (t.rowLines '│')

/-- The lines of the title. -/
def titleLines (t : Table) : List (List Char) :=
  (wrap .fold t.width t.title).map fun line =>
    centre t.width (truncate .fold t.width (trimRight line))

/-- The lines of the table. -/
def lines (t : Table) : List (List Char) :=
  t.titleLines
    ++ t.border '┏' '━' '┳' '┓' :: t.rowLines '┃' t.headings
    ++ t.border '┡' '━' '╇' '┩' :: t.body
    ++ [t.border '└' '─' '┴' '┘']

end Table

end Settings.Terminal
