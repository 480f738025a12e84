import Settings.Number.Decimal
import Settings.Text.Printable

/-!
# Quoted literals

A quoted literal shows a text on one line of printable characters, between single
quotes, or between double quotes if the text has single quotes and no double ones.

## Main definitions

* `quoteMark` — the quote that a literal of a text is written with.
* `quote` — the quoted literal of a text.
* `quoteBytes` — the quoted literal of a string of octets.
-/

namespace Settings.Text

open Number

/-- The quote of a literal: single, unless that alone would have to be escaped. -/
def quoteMark (cs : List Char) : Char :=
  if cs.contains '\'' && !cs.contains '"' then '"' else '\''

/-- A character that is not printable, by its code point in two, four or eight digits. -/
def escapeCode (n : Nat) : List Char :=
  if n < 0x100 then '\\' :: 'x' :: hexPadded 2 n
  else if n < 0x10000 then '\\' :: 'u' :: hexPadded 4 n
  else '\\' :: 'U' :: hexPadded 8 n

/-- One character inside a literal with the given quote. -/
def quoteChar (mark c : Char) : List Char :=
  if c = mark || c = '\\' then ['\\', c]
  else if c = '\n' then ['\\', 'n']
  else if c = '\r' then ['\\', 'r']
  else if c = '\t' then ['\\', 't']
  else if isPrintable c then [c]
  else escapeCode c.toNat

/-- The quoted literal of a text. -/
def quote (cs : List Char) : List Char :=
  let mark := quoteMark cs
  mark :: cs.flatMap (quoteChar mark) ++ [mark]

/-- The quoted literal of a string of octets; octets beyond ASCII are escaped. -/
def quoteBytes (bytes : List UInt8) : List Char :=
  let cs := bytes.map fun b => Char.ofNat b.toNat
  let mark := quoteMark cs
  let octet (c : Char) : List Char :=
    if c.toNat < 0x80 then quoteChar mark c else escapeCode c.toNat
  'b' :: mark :: cs.flatMap octet ++ [mark]

end Settings.Text
