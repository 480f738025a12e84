import Settings.Json.Basic
import Settings.Number.Integer

/-!
# Writing JSON on one line

The compact form has no blanks.  Characters beyond ASCII stand as themselves; the
quote, the backslash and the controls below U+0020 are escaped, so that the form of
any value is a single line.  A value with an integer of more than `digitLimit` digits has
no form.

## Main definitions

* `Json.escape` — one character inside a string.
* `Json.quoted` — a string with its quotes.
* `Json.compact` — the compact form of a value.
-/

namespace Settings.Json

open Number

/-- One character inside a string. -/
def escape (c : Char) : List Char :=
  if c = '"' then ['\\', '"']
  else if c = '\\' then ['\\', '\\']
  else if c = '\n' then ['\\', 'n']
  else if c = '\r' then ['\\', 'r']
  else if c = '\t' then ['\\', 't']
  else if c = '\x08' then ['\\', 'b']
  else if c = '\x0c' then ['\\', 'f']
  else if c.toNat < 0x20 then '\\' :: 'u' :: hexPadded 4 c.toNat
  else [c]

/-- A string with its quotes. -/
def quoted (cs : List Char) : List Char := '"' :: cs.flatMap escape ++ ['"']

/-- Parts with commas between them. -/
def commaSeparated : List (List Char) → List Char
  | [] => []
  | [part] => part
  | part :: parts => part ++ ',' :: commaSeparated parts

/-- A number with a fraction, in digits and a power of ten. -/
def realText (negative : Bool) (digits : Nat) (exponent : Int) : List Char :=
  (if negative then ['-'] else []) ++ decimal digits ++ 'e' :: decimalInt exponent

mutual

/-- The compact form of a value. -/
def compact : Json → Except NumeralFault (List Char)
  | .null => .ok ['n', 'u', 'l', 'l']
  | .bool true => .ok ['t', 'r', 'u', 'e']
  | .bool false => .ok ['f', 'a', 'l', 's', 'e']
  | .int n => (printInteger n).map String.toList
  | .real negative digits exponent => .ok (realText negative digits exponent)
  | .infinite negative => .ok ((if negative then ['-'] else []) ++ "Infinity".toList)
  | .undefined => .ok ['N', 'a', 'N']
  | .text s => .ok (quoted s.toList)
  | .array items => do
    let parts ← compactItems items
    return '[' :: commaSeparated parts ++ [']']
  | .object fields => do
    let parts ← compactFields fields
    return '{' :: commaSeparated parts ++ ['}']

/-- The compact forms of the items of an array. -/
def compactItems : List Json → Except NumeralFault (List (List Char))
  | [] => .ok []
  | item :: items => do
    let part ← compact item
    let parts ← compactItems items
    return part :: parts

/-- The compact forms of the members of an object. -/
def compactFields : List (String × Json) → Except NumeralFault (List (List Char))
  | [] => .ok []
  | (name, value) :: fields => do
    let part ← compact value
    let parts ← compactFields fields
    return (quoted name.toList ++ ':' :: part) :: parts

end

end Settings.Json
