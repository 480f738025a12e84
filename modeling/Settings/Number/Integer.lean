import Settings.Number.Decimal
import Settings.Text.Blank
import Settings.Text.DecimalDigit
import Settings.Text.Quoted

/-!
# Integer numerals as people write them

An integer may stand between blanks, carry one sign, use the decimal digits of any
script, and have single underscores between digits.  Conversion between numerals and
integers is limited to `digitLimit` digits either way, leading zeros included, so
that a hostile text cannot make it slow.

## Main definitions

* `NumeralFault` — why a conversion fails.
* `readInteger` — the integer that a text writes.
* `printInteger` — the decimal numeral of an integer within the limit.
-/

namespace Settings.Number

open Text

/-- The most digits that a conversion between numerals and integers takes. -/
def digitLimit : Nat := 4300

/-- Why a conversion between a numeral and an integer fails. -/
inductive NumeralFault where
  /-- The text writes no integer. -/
  | invalid (text : String)
  /-- The numeral to read has too many digits. -/
  | tooLongToRead (digits : Nat)
  /-- The integer to write has too many digits. -/
  | tooLongToWrite
  deriving DecidableEq, Repr, Inhabited

/-- The wording of a conversion fault; a literal in it is cut at 200 characters. -/
def NumeralFault.message : NumeralFault → String
  | .invalid text =>
    s!"invalid literal for int() with base 10: {String.ofList ((quote text.toList).take 200)}"
  | .tooLongToRead digits =>
    s!"{exceeds}: value has {numeral digits} digits{remedy}"
  | .tooLongToWrite => exceeds ++ remedy
where
  /-- What is wrong with a numeral that is too long. -/
  exceeds : String :=
    s!"Exceeds the limit ({numeral digitLimit} digits) for integer string conversion"
  /-- What can be done about it. -/
  remedy : String := "; use sys.set_int_max_str_digits() to increase the limit"

/-! ### Reading -/

/-- A blank that may surround an integer: any but the information separators. -/
def isIntegerBlank (c : Char) : Bool :=
  isBlank c && !(decide (0x1C ≤ c.toNat) && decide (c.toNat ≤ 0x1F))

/-- A character of the digit part of an integer. -/
def isIntegerBody (c : Char) : Bool := (digitValue? c).isSome || c == '_'

/-- The sign of a numeral, and the text after it. -/
def takeSign : List Char → Bool × List Char
  | '-' :: cs => (true, cs)
  | '+' :: cs => (false, cs)
  | cs => (false, cs)

/-- Underscores stand only between digits: `before` says whether a digit precedes. -/
def wellSpaced : Bool → List Char → Bool
  | before, [] => before
  | before, c :: cs => if c = '_' then before && wellSpaced false cs else wellSpaced true cs

/-- The integer with the given sign and magnitude. -/
def signed (negative : Bool) (n : Nat) : Int := if negative then -(n : Int) else n

/-- The integer that a text writes. -/
def readInteger (text : String) : Except NumeralFault Int :=
  let (negative, cs) := takeSign (text.toList.dropWhile isIntegerBlank)
  let body := cs.takeWhile isIntegerBody
  let digits := body.filterMap digitValue?
  if !wellSpaced false body then .error (.invalid text)
  else if digitLimit < digits.length then .error (.tooLongToRead digits.length)
  else if !(cs.dropWhile isIntegerBody).all isIntegerBlank then .error (.invalid text)
  else .ok (signed negative (ofDigits digits))

/-! ### Writing -/

/-- The decimal numeral of an integer of at most `digitLimit` digits. -/
def printInteger (n : Int) : Except NumeralFault String :=
  if (decimal n.natAbs).length ≤ digitLimit then .ok (numeralInt n) else .error .tooLongToWrite

end Settings.Number
