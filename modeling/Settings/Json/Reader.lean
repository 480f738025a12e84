import Settings.Json.Basic
import Settings.Number.Decimal
import Settings.Text.DecimalDigit

/-!
# Reading JSON

The reader takes one value from the start of a text.  Every call consumes at least
one character, so the length of the text bounds the depth of the calls.  Numerals of any length are
read, also those that the printer does not make.

## Main definitions

* `Json.stringBody` — the code points of a string up to its closing quote.
* `Json.ofCodePoints` — the characters of these, surrogate pairs joined.
* `Json.read?` — the value that a text holds, with nothing after it but blanks.
-/

namespace Settings.Json

open Number Text

/-- The blanks between the tokens. -/
def isBlank (c : Char) : Bool := c == ' ' || c == '\n' || c == '\r' || c == '\t'

/-- The text from its first token on. -/
def skipBlank (cs : List Char) : List Char := cs.dropWhile isBlank

/-! ### Strings -/

/-- The value of a hexadecimal digit. -/
def hexValue? (c : Char) : Option Nat :=
  if isAsciiDigit c then some (c.toNat - '0'.toNat)
  else if 'a' ≤ c && c ≤ 'f' then some (c.toNat - 'a'.toNat + 10)
  else if 'A' ≤ c && c ≤ 'F' then some (c.toNat - 'A'.toNat + 10)
  else none

/-- The value of four hexadecimal digits. -/
def hexUnit? (a b c d : Char) : Option Nat := do
  let a ← hexValue? a
  let b ← hexValue? b
  let c ← hexValue? c
  let d ← hexValue? d
  return ((a * 16 + b) * 16 + c) * 16 + d

/-- The character that a letter after a backslash stands for. -/
def unescape? (c : Char) : Option Nat :=
  match c with
  | '"' | '\\' | '/' => some c.toNat
  | 'n' => some 0x0A
  | 'r' => some 0x0D
  | 't' => some 0x09
  | 'b' => some 0x08
  | 'f' => some 0x0C
  | _ => none

/-- The code points of a string up to its closing quote, and the text after that. -/
def stringBody : List Char → Option (List Nat × List Char)
  | [] => none
  | '"' :: rest => some ([], rest)
  | '\\' :: 'u' :: a :: b :: c :: d :: rest => do
    let unit ← hexUnit? a b c d
    let (units, rest) ← stringBody rest
    return (unit :: units, rest)
  | '\\' :: c :: rest => do
    let unit ← unescape? c
    let (units, rest) ← stringBody rest
    return (unit :: units, rest)
  | c :: rest =>
    if c.toNat < 0x20 then none
    else do
      let (units, rest) ← stringBody rest
      return (c.toNat :: units, rest)

/-- The characters of a list of code points: a high surrogate and the low one after it
are one character, a surrogate on its own becomes the replacement character. -/
def ofCodePoints : List Nat → List Char
  | [] => []
  | [n] => [if n.isValidChar then Char.ofNat n else '\ufffd']
  | high :: low :: rest =>
    if 0xD800 ≤ high && high < 0xDC00 && 0xDC00 ≤ low && low < 0xE000 then
      Char.ofNat (0x10000 + (high - 0xD800) * 0x400 + (low - 0xDC00)) :: ofCodePoints rest
    else (if high.isValidChar then Char.ofNat high else '\ufffd') :: ofCodePoints (low :: rest)

/-- A string after its opening quote, and the text after it. -/
def readString (cs : List Char) : Option (String × List Char) :=
  (stringBody cs).map fun (units, rest) => (String.ofList (ofCodePoints units), rest)

/-! ### Numbers -/

/-- The values of the digits at the start of a text, and the text after them. -/
def readDigits (cs : List Char) : List Nat × List Char :=
  ((cs.takeWhile isAsciiDigit).map fun c => c.toNat - '0'.toNat, cs.dropWhile isAsciiDigit)

/-- The fraction digits of a number, if it has a fraction. -/
def readFraction : List Char → List Nat × List Char
  | '.' :: cs => readDigits cs
  | cs => ([], cs)

/-- The exponent after its letter. -/
def readSignedExponent : List Char → Int × List Char
  | '-' :: cs => let (ds, rest) := readDigits cs; (-(ofDigits ds : Int), rest)
  | '+' :: cs => let (ds, rest) := readDigits cs; (ofDigits ds, rest)
  | cs => let (ds, rest) := readDigits cs; (ofDigits ds, rest)

/-- The exponent of a number, if it has one. -/
def readExponent : List Char → Option Int × List Char
  | 'e' :: cs => let (e, rest) := readSignedExponent cs; (some e, rest)
  | 'E' :: cs => let (e, rest) := readSignedExponent cs; (some e, rest)
  | cs => (none, cs)

/-- A number after its sign, and the text after it. -/
def readMagnitude (negative : Bool) (cs : List Char) : Option (Json × List Char) :=
  let (whole, afterWhole) := readDigits cs
  let (fraction, afterFraction) := readFraction afterWhole
  let (exponent?, rest) := readExponent afterFraction
  if whole.isEmpty then none
  else if fraction.isEmpty && exponent?.isNone then
    some (.int (if negative then -(ofDigits whole : Int) else ofDigits whole), rest)
  else
    some (.real negative (ofDigits (whole ++ fraction)) (exponent?.getD 0 - fraction.length), rest)

/-- A number, and the text after it. -/
def readNumber : List Char → Option (Json × List Char)
  | '-' :: 'I' :: 'n' :: 'f' :: 'i' :: 'n' :: 'i' :: 't' :: 'y' :: rest =>
    some (.infinite true, rest)
  | 'I' :: 'n' :: 'f' :: 'i' :: 'n' :: 'i' :: 't' :: 'y' :: rest => some (.infinite false, rest)
  | 'N' :: 'a' :: 'N' :: rest => some (.undefined, rest)
  | '-' :: cs => readMagnitude true cs
  | cs => readMagnitude false cs

/-! ### Values -/

mutual

/-- The value at the start of a text, and the text after it. -/
def readValue : Nat → List Char → Option (Json × List Char)
  | 0, _ => none
  | fuel + 1, cs =>
    match skipBlank cs with
    | 'n' :: 'u' :: 'l' :: 'l' :: rest => some (.null, rest)
    | 't' :: 'r' :: 'u' :: 'e' :: rest => some (.bool true, rest)
    | 'f' :: 'a' :: 'l' :: 's' :: 'e' :: rest => some (.bool false, rest)
    | '"' :: rest => (readString rest).map fun (s, rest) => (.text s, rest)
    | '[' :: rest =>
      match skipBlank rest with
      | ']' :: rest => some (.array [], rest)
      | rest => (readItems fuel rest).map fun (items, rest) => (.array items, rest)
    | '{' :: rest =>
      match skipBlank rest with
      | '}' :: rest => some (.object [], rest)
      | rest => (readFields fuel rest).map fun (fields, rest) => (.object fields, rest)
    | rest => readNumber rest

/-- The items of an array up to its closing bracket, and the text after it. -/
def readItems : Nat → List Char → Option (List Json × List Char)
  | 0, _ => none
  | fuel + 1, cs => do
    let (item, rest) ← readValue fuel cs
    match skipBlank rest with
    | ',' :: rest =>
      let (items, rest) ← readItems fuel rest
      return (item :: items, rest)
    | ']' :: rest => return ([item], rest)
    | _ => none

/-- The members of an object up to its closing brace, and the text after it. -/
def readFields : Nat → List Char → Option (List (String × Json) × List Char)
  | 0, _ => none
  | fuel + 1, cs =>
    match skipBlank cs with
    | '"' :: rest => do
      let (name, rest) ← readString rest
      match skipBlank rest with
      | ':' :: rest =>
        let (value, rest) ← readValue fuel rest
        match skipBlank rest with
        | ',' :: rest =>
          let (fields, rest) ← readFields fuel rest
          return ((name, value) :: fields, rest)
        | '}' :: rest => return ([(name, value)], rest)
        | _ => none
      | _ => none
    | _ => none

end

/-- The value that a text holds, with nothing after it but blanks. -/
def read? (text : String) : Option Json :=
  let cs := text.toList
  match readValue (cs.length + 1) cs with
  | some (value, rest) => if (skipBlank rest).isEmpty then some value else none
  | none => none

end Settings.Json
