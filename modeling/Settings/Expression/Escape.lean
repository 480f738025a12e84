import Settings.Expression.Number
import Settings.Number.Integer

/-!
# Escapes in quoted texts

A backslash in a quoted text begins an escape.  Escapes of code points have a fixed number of
hexadecimal digits; octets have two.  Braces in a text with places have to be matched.

## Main definitions

* `textFault?` — what is wrong with a quoted text.
-/

namespace Settings.Expression

open Number Text

/-- The character is a hexadecimal digit. -/
def isHexDigit (c : Char) : Bool :=
  isAsciiDigit c || ('a' ≤ c && c ≤ 'f') || ('A' ≤ c && c ≤ 'F')

/-- The number that hexadecimal digits write. -/
def hexNumber (cs : List Char) : Nat :=
  cs.foldl (fun n c =>
    n * 16 + (if isAsciiDigit c then c.toNat - 48 else c.toLower.toNat - 87)) 0

/-- The places that a character takes in messages about escapes: characters beyond ASCII
count as escapes of their own. -/
def places (c : Char) : Nat := if c.toNat < 0x80 then 1 else 10

/-- The places that a backslash takes before a character. -/
def slashPlaces (c : Char) : Nat := if c.toNat < 0x80 then 1 else 6

/-- The number of digits of an escape, by its letter, and how messages write it. -/
def escapeDigits? (c : Char) : Option (Nat × String) :=
  if c = 'x' then some (2, "\\xXX")
  else if c = 'u' then some (4, "\\uXXXX")
  else if c = 'U' then some (8, "\\UXXXXXXXX")
  else none

/-- The wording about an escape at a position in a text. -/
def escapeMessage (position length : Nat) (what : String) : String :=
  "(unicode error) 'unicodeescape' codec can't decode bytes in position "
    ++ s!"{numeral position}-{numeral (position + length - 1)}: {what}"

/-- What is wrong with an escape of a code point, at a position and after its letter. -/
def codePointFault? (position digits : Nat) (shape : String) (cs : List Char) : Option String :=
  let found := (cs.take digits).takeWhile isHexDigit
  if found.length < digits then
    some (escapeMessage position (found.length + 2) s!"truncated {shape} escape")
  else if 0x10FFFF < hexNumber found then
    some (escapeMessage position (found.length + 2) "illegal Unicode character")
  else none

/-- What is wrong with an escape of a character by its name, at a position and after its
letter.  Any name is taken for that of a character. -/
def namedFault? (position : Nat) (cs : List Char) : Option String :=
  let malformed (length : Nat) : Option String :=
    some (escapeMessage position length "malformed \\N character escape")
  match cs with
  | '{' :: rest =>
    let name := rest.takeWhile (· != '}')
    if name.length = rest.length then malformed (name.foldl (fun n c => n + places c) 3)
    else if name.isEmpty then malformed 3
    else none
  | _ => malformed 2

/-- The first fault among the escapes of a text, from a position on. -/
def escapeFault? (position : Nat) : List Char → Option String
  | '\\' :: c :: cs =>
    let fault := match escapeDigits? c with
      | some (digits, shape) => codePointFault? position digits shape cs
      | none => if c = 'N' then namedFault? position cs else none
    fault.or (escapeFault? (position + slashPlaces c + places c) cs)
  | c :: cs => escapeFault? (position + places c) cs
  | [] => none

/-- The first fault among the escapes of a string of octets, from a position on. -/
def octetFault? (position : Nat) : List Char → Option String
  | '\\' :: c :: cs =>
    if c = 'x' && ((cs.take 2).takeWhile isHexDigit).length < 2 then
      some s!"(value error) invalid \\x escape at position {numeral position}"
    else octetFault? (position + 2) cs
  | _ :: cs => octetFault? (position + 1) cs
  | [] => none

/-- What is wrong with the braces of a text with places; `inside` holds what stands in the
place that is open. -/
def braceFault? (inside : Option (List Char)) : List Char → Option String
  | [] => inside.map fun _ => "f-string: expecting '\x7d'"
  | c :: cs =>
    match inside with
    | some expression =>
      if c = '}' then
        if expression.all fun c => c == ' ' || c == '\t' || c == '\n' then
          some "f-string: empty expression not allowed"
        else braceFault? none cs
      else braceFault? (some (c :: expression)) cs
    | none =>
      if c = '{' then
        match cs with
        | '{' :: rest => braceFault? none rest
        | cs => braceFault? (some []) cs
      else if c = '}' then
        match cs with
        | '}' :: rest => braceFault? none rest
        | _ => some "f-string: single '\x7d' is not allowed"
      else braceFault? none cs

/-- What is wrong with a quoted text. -/
def textFault? (t : TextForm) : Option String :=
  if t.octets then
    if t.body.any fun c => decide (0x80 ≤ c.toNat) then
      some "bytes can only contain ASCII literal characters"
    else if t.raw then none
    else octetFault? 0 t.body
  else if t.template then braceFault? none t.body
  else if t.raw then none
  else escapeFault? 0 t.body

end Settings.Expression
