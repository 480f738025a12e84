import Settings.Fault
import Settings.Text.Lower

/-!
# Durations

A duration is written as an integer with an optional unit after it, in any case of
letters and between blanks: `500`, `250ms`, `30s`, `2Min`, `1h`.  Without a unit it
counts milliseconds.  The result is in milliseconds and never above the greatest
signed integer of 64 bits.

## Main definitions

* `TimeUnit` — the units, each with its suffix and its microseconds.
* `Duration.literal?` — sign, digits and letters of a text.
* `Duration.ofCount` — a count of units in milliseconds.
* `Duration.parse` — the milliseconds that a text writes.
-/

namespace Settings

open Number Text

/-- A unit of time, by its suffix: `m` and `min` are both minutes. -/
inductive TimeUnit where
  | us
  | ms
  | s
  | m
  | min
  | h
  | d
  deriving DecidableEq, Repr, Inhabited

namespace TimeUnit

/-- The units from the shortest to the longest. -/
def all : List TimeUnit := [.us, .ms, .s, .m, .min, .h, .d]

/-- The suffix that stands for a unit. -/
def suffix : TimeUnit → String
  | .us => "us"
  | .ms => "ms"
  | .s => "s"
  | .m => "m"
  | .min => "min"
  | .h => "h"
  | .d => "d"

/-- The microseconds of a unit. -/
def micros : TimeUnit → Nat
  | .us => 1
  | .ms => 1000
  | .s => 1000 * 1000
  | .m => 60 * 1000 * 1000
  | .min => 60 * 1000 * 1000
  | .h => 60 * 60 * 1000 * 1000
  | .d => 24 * 60 * 60 * 1000 * 1000

/-- The unit that a suffix stands for. -/
def ofSuffix? (suffix : String) : Option TimeUnit := all.find? (·.suffix == suffix)

@[simp] theorem ofSuffix?_suffix (u : TimeUnit) : ofSuffix? u.suffix = some u := by
  cases u <;> decide

end TimeUnit

namespace Duration

/-- The greatest duration in milliseconds. -/
def limit : Nat := 9223372036854775807

/-- A small letter of ASCII. -/
def isSmallLetter (c : Char) : Bool := decide ('a'.toNat ≤ c.toNat) && decide (c.toNat ≤ 'z'.toNat)

/-- The minus sign of a text, and the text after it. -/
def takeMinus : List Char → Bool × List Char
  | '-' :: cs => (true, cs)
  | cs => (false, cs)

/-- Sign, digits and letters of a text that consists of these. -/
def literal? (cs : List Char) : Option (Bool × List Char × List Char) :=
  let (negative, cs) := takeMinus cs
  let digits := cs.takeWhile isAsciiDigit
  let letters := cs.dropWhile isAsciiDigit
  if digits ≠ [] ∧ letters.all isSmallLetter then some (negative, digits, letters) else none

/-- The number that ASCII digits write. -/
def digitsValue (digits : List Char) : Nat := ofDigits (digits.map fun c => c.toNat - '0'.toNat)

/-- A count of units in whole milliseconds, at most `limit`. -/
def ofCount (count : Nat) (unit : TimeUnit) : Nat :=
  Nat.min (count * unit.micros / TimeUnit.ms.micros) limit

/-- The milliseconds of a signed count with the letters of a unit.  The range of the count
is checked first, then the unit, then the sign. -/
def ofLiteral (text : String) (count : Int) (letters : List Char) : Except Fault Nat :=
  if !IntWidth.int64.holds count then .error (.malformedDuration (some text))
  else
    match letters, TimeUnit.ofSuffix? (String.ofList letters) with
    | [], _ => if count < 0 then .error (.negativeDuration count) else .ok count.toNat
    | _, none => .error (.unknownUnit (String.ofList letters) text)
    | _, some unit =>
      if count < 0 then .error (.negativeDuration count) else .ok (ofCount count.toNat unit)

/-- The milliseconds that a text writes. -/
def ofText (text : String) : Except Fault Nat :=
  match literal? (lower (trim text.toList)) with
  | none => .error (.malformedDuration (some text))
  | some (negative, digits, letters) =>
    if digitLimit < digits.length then .error (.numeral (.tooLongToRead digits.length))
    else ofLiteral text (signed negative (digitsValue digits)) letters

/-- The milliseconds that a text writes, if there is one. -/
def parse : Option String → Except Fault Nat
  | none => .error (.malformedDuration none)
  | some text => ofText text

@[simp] theorem parse_none : parse none = .error (.malformedDuration none) := rfl

@[simp] theorem parse_some (text : String) : parse (some text) = ofText text := rfl

end Duration

end Settings
