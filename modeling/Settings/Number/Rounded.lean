import Settings.Number.Binary64

/-!
# Decimals with a given number of digits

A number can be written with a fixed number of digits after the point, or with a fixed number
of digits and an exponent part, or in the shorter of these forms.  The digits are those of the
nearest such decimal; a half goes to the even neighbour.

## Main definitions

* `Form` — the form in which a number is written.
* `Binary64.rounded` — the text of a number without its sign, in a form.
-/

namespace Settings.Number

/-- The form in which a number is written. -/
inductive Form where
  /-- With digits after the point, and no exponent part. -/
  | fixed
  /-- With one digit before the point, and an exponent part. -/
  | scientific
  /-- With an exponent part for small and large numbers only. -/
  | general
  deriving DecidableEq, Repr, Inhabited

namespace Binary64

/-- Digits before and after a point, which may be left out where nothing comes after it. -/
def withPoint (keepPoint : Bool) (before after : List Char) : List Char :=
  if after.isEmpty && !keepPoint then before else before ++ '.' :: after

/-- A fraction with a number of digits after the point. -/
def Ratio.fixed (r : Ratio) (places : Nat) (keepPoint : Bool) : List Char :=
  let digits := decimal (r.scale10 places).round
  let digits := List.replicate (places + 1 - digits.length) '0' ++ digits
  withPoint keepPoint (digits.take (digits.length - places)) (digits.drop (digits.length - places))

/-- The first digits of a fraction, rounded, and the exponent of ten of the first one. -/
def Ratio.leading (r : Ratio) (count : Nat) : List Char × Int :=
  if r.num = 0 then (List.replicate count '0', 0)
  else
    let exponent := r.magnitude 400 - 1
    let digits := decimal (r.scale10 (count - 1 - exponent)).round
    if count < digits.length then (digits.take count, exponent + 1) else (digits, exponent)

/-- Digits with a point after the first one and an exponent part. -/
def scientificText (digits : List Char) (exponent : Int) (keepPoint : Bool) : List Char :=
  withPoint keepPoint (digits.take 1) (digits.drop 1) ++ exponentPart exponent

/-- Digits without the zeros at their end. -/
def trimZeros (digits : List Char) : List Char := (digits.reverse.dropWhile (· == '0')).reverse

/-- A fraction with a number of digits, with an exponent part if the exponent is less than -4
or not less than the number of digits.  Zeros after the point are left out unless the point is
kept anyway. -/
def Ratio.general (r : Ratio) (count : Nat) (keepPoint : Bool) : List Char :=
  let (digits, exponent) := r.leading count
  let trimmed (after : List Char) : List Char := if keepPoint then after else trimZeros after
  if exponent < -4 ∨ (count : Int) ≤ exponent then
    scientificText (digits.take 1 ++ trimmed (digits.drop 1)) exponent keepPoint
  else if exponent < 0 then
    withPoint keepPoint ['0']
      (trimmed (List.replicate (exponent.natAbs - 1) '0' ++ digits))
  else
    withPoint keepPoint (digits.take (exponent.natAbs + 1))
      (trimmed (digits.drop (exponent.natAbs + 1)))

/-- The text of a number without its sign, in a form and with a precision: the number of digits
after the point, or of all digits in the general form. -/
def rounded (x : Binary64) (form : Form) (precision : Nat) (keepPoint : Bool) : List Char :=
  if x.isFinite then
    match form with
    | .fixed => x.size.fixed precision keepPoint
    | .scientific =>
      let (digits, exponent) := x.size.leading (precision + 1)
      scientificText digits exponent keepPoint
    | .general => x.size.general (max precision 1) keepPoint
  else if x.isUndefined then ['n', 'a', 'n']
  else ['i', 'n', 'f']

end Binary64

end Settings.Number
