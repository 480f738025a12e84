import Settings.Number.Decimal

/-!
# Binary floating point numbers of 64 bits

A finite number is a mantissa times a power of two.  Its shortest decimal has the
fewest digits among the decimals that are read back as the same number, and is the
nearest of those.

## Main definitions

* `Binary64` — a number by its 64 bits.
* `Binary64.ofRatio`, `Binary64.ofDecimal` — the number nearest to a fraction or a decimal.
* `Binary64.shortest` — the digits and the exponent of the shortest decimal.
* `Binary64.text` — the text of a number: positional for exponents from -4 up to 15,
  with an exponent part otherwise, and always recognisable as no integer.
* `Binary64.truncate`, `Binary64.floor` — the integer part, and the integer below.
-/

namespace Settings.Number

/-- A floating point number, by its sign, exponent and fraction bits. -/
structure Binary64 where
  /-- The 64 bits. -/
  bits : UInt64
  deriving DecidableEq, Repr, Inhabited

namespace Binary64

/-- The sign bit is set. -/
def isNegative (x : Binary64) : Bool := x.bits.toNat.testBit 63

/-- The bit that a normal number has in front of its 52 fraction bits. -/
def hiddenBit : Nat := 0x10000000000000

/-- The eleven exponent bits. -/
def exponentBits (x : Binary64) : Nat := x.bits.toNat / hiddenBit % 2048

/-- The 52 fraction bits. -/
def fractionBits (x : Binary64) : Nat := x.bits.toNat % hiddenBit

/-- The mantissa: the fraction with the hidden bit of a normal number. -/
def mantissa (x : Binary64) : Nat :=
  if x.exponentBits = 0 then x.fractionBits else x.fractionBits + hiddenBit

/-- The exponent of two that the mantissa is scaled by. -/
def exponent (x : Binary64) : Int :=
  if x.exponentBits = 0 then -1074 else (x.exponentBits : Int) - 1075

/-- The number is neither infinite nor undefined. -/
def isFinite (x : Binary64) : Bool := x.exponentBits != 2047

/-! ### Fractions -/

/-- A fraction that is not negative: numerator and denominator. -/
structure Ratio where
  num : Nat
  den : Nat
  deriving Repr

/-- A fraction times a power of two. -/
def Ratio.scale2 (r : Ratio) (e : Int) : Ratio :=
  if e < 0 then ⟨r.num, r.den * Nat.pow 2 e.natAbs⟩
  else ⟨r.num * Nat.pow 2 e.natAbs, r.den⟩

/-- A fraction times a power of ten. -/
def Ratio.scale10 (r : Ratio) (e : Int) : Ratio :=
  if e < 0 then ⟨r.num, r.den * Nat.pow 10 e.natAbs⟩
  else ⟨r.num * Nat.pow 10 e.natAbs, r.den⟩

/-- The integer nearest to a fraction; a half goes to the even neighbour. -/
def Ratio.round (r : Ratio) : Nat :=
  let below := r.num / r.den
  let twice := 2 * (r.num % r.den)
  if twice < r.den || (twice == r.den && below % 2 == 0) then below else below + 1

/-- The size of a finite number. -/
def size (x : Binary64) : Ratio := (Ratio.mk x.mantissa 1).scale2 x.exponent

/-! ### Rounding -/

/-- The bits of infinity. -/
def infinityBits : Nat := 0x7FF0000000000000

/-- The bits of the number nearest to a fraction, with a mantissa of 53 bits if the exponent
can be as small as that needs.  The hidden bit is carried into the exponent. -/
def nearestBits (r : Ratio) : Nat :=
  if r.num = 0 then 0
  else
    let least := (Nat.log2 r.num : Int) - Nat.log2 r.den - 53
    let scaled := r.scale2 (-least)
    let fitted := if scaled.num / scaled.den < 2 * hiddenBit then least else least + 1
    let exponent := max fitted (-1074)
    min infinityBits ((exponent + 1074).toNat * hiddenBit + (r.scale2 (-exponent)).round)

/-- The number with the given bits of its size. -/
def ofBits (negative : Bool) (bits : Nat) : Binary64 :=
  ⟨UInt64.ofNat (if negative then bits + 0x8000000000000000 else bits)⟩

/-- The number nearest to a fraction. -/
def ofRatio (negative : Bool) (r : Ratio) : Binary64 := ofBits negative (nearestBits r)

/-- The number nearest to the decimal with digits `n` and exponent of ten `e`.  Decimals far
beyond either end are not worked out. -/
def ofDecimal (negative : Bool) (n : Nat) (e : Int) : Binary64 :=
  if n = 0 ∨ (Nat.log2 n : Int) + 1 + 3 * e < -1080 then ofBits negative 0
  else if 310 < e then ofBits negative infinityBits
  else ofRatio negative ((Ratio.mk n 1).scale10 e)

/-- Infinity, of either sign. -/
def infinite (negative : Bool) : Binary64 := ofBits negative infinityBits

/-- The undefined number. -/
def undefined : Binary64 := ofBits false (infinityBits + hiddenBit / 2)

/-! ### The shortest decimal -/

/-- The least `p` with `r < 10 ^ p`, for a fraction of at least `10 ^ (-steps)`. -/
def Ratio.magnitude (r : Ratio) : Nat → Int
  | 0 => 0
  | steps + 1 =>
    if r.den ≤ r.num then ((decimal (r.num / r.den)).length : Int)
    else Ratio.magnitude ⟨r.num * 10, r.den⟩ steps - 1

/-- Four times the mantissa and four times the ends of the interval of the reals that
are rounded to the number: half a unit up, and half a unit down or, below a power of
two, a quarter. -/
def quadrupled (x : Binary64) : Nat × Nat × Nat :=
  let m := 4 * x.mantissa
  let down := if x.fractionBits = 0 && 1 < x.exponentBits then 1 else 2
  (m - down, m, m + 2)

/-- The decimal `d * 10 ^ k` is read back as the number: it lies between the ends, which
count if the mantissa is even. -/
def readsBack (x : Binary64) (d : Nat) (k : Int) : Bool :=
  let (lo, _, hi) := x.quadrupled
  let lo := ((Ratio.mk lo 1).scale2 (x.exponent - 2)).scale10 (-k)
  let hi := ((Ratio.mk hi 1).scale2 (x.exponent - 2)).scale10 (-k)
  if x.mantissa % 2 = 0 then decide (lo.num ≤ d * lo.den) && decide (d * hi.den ≤ hi.num)
  else decide (lo.num < d * lo.den) && decide (d * hi.den < hi.num)

/-- The decimals with exponent `k` next to the number, the nearer one first. -/
def neighbours (x : Binary64) (k : Int) : List Nat :=
  let r := x.size.scale10 (-k)
  let d := r.num / r.den
  let twice := 2 * (r.num % r.den)
  if twice < r.den || (twice == r.den && d % 2 == 0) then [d, d + 1] else [d + 1, d]

/-- The first decimal that reads back among those of `digits` digits, one more, and so
on, for `steps` steps. -/
def search (x : Binary64) (p : Int) (digits : Nat) : Nat → Nat × Int
  | 0 => (x.mantissa, 0)
  | steps + 1 =>
    let k := p - digits
    match (x.neighbours k).find? (x.readsBack · k) with
    | some d => (d, k)
    | none => search x p (digits + 1) steps

/-- The shortest decimal that reads back as a finite number, as digits and exponent. -/
def shortest (x : Binary64) : Nat × Int :=
  if x.mantissa = 0 then (0, 0)
  else x.search (x.size.magnitude 400) 1 17

/-! ### Text -/

/-- The digits of a decimal without the zeros at its end, and the place of its point,
counted from its first digit. -/
def pointed (d : Nat) (k : Int) : List Char × Int :=
  let digits := decimal d
  let kept := (digits.reverse.dropWhile (· == '0')).reverse
  (if kept.isEmpty then ['0'] else kept, digits.length + k)

/-- The exponent part of a number, of at least two digits. -/
def exponentPart (e : Int) : List Char :=
  let digits := decimal e.natAbs
  'e' :: (if e < 0 then '-' else '+') :: (if digits.length < 2 then '0' :: digits else digits)

/-- The text of a finite number that is not negative. -/
def magnitudeText (x : Binary64) : List Char :=
  if x.mantissa = 0 then ['0', '.', '0']
  else
    let (d, k) := x.shortest
    let (digits, point) := pointed d k
    if -4 < point && point ≤ 16 then
      if point ≤ 0 then ['0', '.'] ++ List.replicate point.natAbs '0' ++ digits
      else if digits.length ≤ point.natAbs then
        digits ++ List.replicate (point.natAbs - digits.length) '0' ++ ['.', '0']
      else digits.take point.natAbs ++ ['.'] ++ digits.drop point.natAbs
    else
      let fraction := if digits.length ≤ 1 then [] else '.' :: digits.drop 1
      digits.take 1 ++ fraction ++ exponentPart (point - 1)

/-- The text of a number. -/
def text (x : Binary64) : String :=
  let sign := if x.isNegative then "-" else ""
  if x.isFinite then sign ++ String.ofList x.magnitudeText
  else if x.fractionBits = 0 then sign ++ "inf"
  else "nan"

/-! ### Integers -/

/-- The integer part of a finite number. -/
def truncate (x : Binary64) : Int :=
  let r := x.size
  if x.isNegative then -((r.num / r.den : Nat) : Int) else (r.num / r.den : Nat)

/-- What a finite number has after its integer part, without its sign. -/
def fraction (x : Binary64) : Ratio := ⟨x.size.num % x.size.den, x.size.den⟩

/-- The greatest integer that is not above a finite number. -/
def floor (x : Binary64) : Int :=
  if x.isNegative && x.fraction.num != 0 then x.truncate - 1 else x.truncate

/-- The number is undefined. -/
def isUndefined (x : Binary64) : Bool := !x.isFinite && x.fractionBits != 0

/-- The numbers are equal: zero has no sign, and an undefined number equals none. -/
def same (x y : Binary64) : Bool :=
  !x.isUndefined && (x == y || (x.isFinite && y.isFinite && x.mantissa == 0 && y.mantissa == 0))

/-- The number is the integer `n`. -/
def isInt (x : Binary64) (n : Int) : Bool :=
  x.isFinite && x.fraction.num == 0 && x.truncate == n

end Binary64

end Settings.Number
