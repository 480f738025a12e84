import Mathlib
import Settings.Duration

/-!
# Reading decimal numerals back

The numerals of this library are the decimal digits of the standard library, and
reading the digits of a numeral gives the number that it was written for.

## Main results

* `decimal_eq_toDigits`, `numeralInt_eq_toString` — what the numerals are.
* `length_decimal_le_iff`, `printInteger_eq` — how long a numeral is, and which are written.
* `digitsValue_decimal` — the digits of a numeral write its number.
* `takeSign_decimalInt`, `signed_natAbs` — sign and size of an integer, taken apart and
  put together.
-/

namespace Settings.Number

open Text

/-! ### What the numerals are -/

theorem digitChar_eq {d : Nat} (h : d < 10) : digitChar d = Nat.digitChar d := by
  have key : ∀ d : Fin 10, digitChar d = Nat.digitChar d := by decide
  exact key ⟨d, h⟩

theorem toNat_digitChar {d : Nat} (h : d < 10) : (digitChar d).toNat = '0'.toNat + d := by
  have key : ∀ d : Fin 10, (digitChar d).toNat = '0'.toNat + d := by decide
  exact key ⟨d, h⟩

/-- The decimal numeral has the digits to base ten. -/
theorem decimal_eq_toDigits (n : Nat) : decimal n = Nat.toDigits 10 n := by
  rw [Nat.toDigits_eq_if (by decide)]
  induction n using decimal.induct with
  | case1 n h => rw [decimal_of_lt h, if_pos h, digitChar_eq h]
  | case2 n h ih =>
    have hmod : n % 10 < 10 := Nat.mod_lt n (by decide)
    rw [decimal_of_le (by omega), if_neg h, ih, digitChar_eq hmod,
      ← Nat.toDigits_eq_if (by decide)]

theorem numeralInt_eq_toString (n : Int) : numeralInt n = toString n := by
  cases n with
  | ofNat n =>
    change String.ofList (decimal n) = Nat.repr n
    rw [decimal_eq_toDigits, Nat.repr_eq_ofList_toDigits]
  | negSucc n =>
    change String.ofList ('-' :: decimal (n + 1)) = "-" ++ Nat.repr (n + 1)
    rw [decimal_eq_toDigits, Nat.repr_eq_ofList_toDigits, ← List.singleton_append,
      String.ofList_append]

/-- A numeral has at most `k` digits if its number is below the power of ten. -/
theorem length_decimal_le_iff {n k : Nat} (hk : 0 < k) :
    (decimal n).length ≤ k ↔ n < 10 ^ k := by
  rw [decimal_eq_toDigits]
  exact Nat.length_toDigits_le_iff (by decide) hk

/-- An integer is written if its size is below the power of ten that is too long. -/
theorem printInteger_eq (n : Int) :
    printInteger n
      = if n.natAbs < 10 ^ digitLimit then .ok (numeralInt n) else .error .tooLongToWrite := by
  have hlength : (decimal n.natAbs).length ≤ digitLimit ↔ n.natAbs < 10 ^ digitLimit :=
    length_decimal_le_iff (by decide)
  rw [printInteger]
  simp only [hlength]

/-! ### Reading -/

theorem isAsciiDigit_digitChar {d : Nat} (h : d < 10) : isAsciiDigit (digitChar d) = true := by
  rw [isAsciiDigit, toNat_digitChar h, Bool.and_eq_true, decide_eq_true_eq, decide_eq_true_eq]
  have : '9'.toNat = '0'.toNat + 9 := rfl
  omega

theorem isAsciiDigit_of_mem_decimal (n : Nat) : ∀ c ∈ decimal n, isAsciiDigit c = true := by
  induction n using decimal.induct with
  | case1 n h =>
    intro c hc
    rw [decimal_of_lt h, List.mem_singleton] at hc
    rw [hc]
    exact isAsciiDigit_digitChar h
  | case2 n h ih =>
    intro c hc
    rw [decimal_of_le (by omega), List.mem_append, List.mem_singleton] at hc
    rcases hc with hc | rfl
    · exact ih c hc
    · exact isAsciiDigit_digitChar (Nat.mod_lt n (by decide))

/-- **The digits of a numeral write its number.** -/
theorem digitsValue_decimal (n : Nat) : Duration.digitsValue (decimal n) = n := by
  unfold Duration.digitsValue
  induction n using decimal.induct with
  | case1 n h =>
    rw [decimal_of_lt h, List.map_singleton, toNat_digitChar h]
    simp [ofDigits]
  | case2 n h ih =>
    have hmod : n % 10 < 10 := Nat.mod_lt n (by decide)
    rw [decimal_of_le (by omega), List.map_append, List.map_singleton,
      ofDigits_append_singleton, ih, toNat_digitChar hmod]
    omega

/-- A numeral begins with a digit, so that it has no sign. -/
theorem takeSign_decimal (n : Nat) : takeSign (decimal n) = (false, decimal n) := by
  cases hd : decimal n with
  | nil => exact absurd hd (decimal_ne_nil n)
  | cons c cs =>
    have hc : isAsciiDigit c = true := isAsciiDigit_of_mem_decimal n c (by rw [hd]; simp)
    -- neither sign is a digit
    unfold takeSign
    split
    · next heq =>
      obtain ⟨rfl, -⟩ := List.cons.inj heq
      exact absurd hc (by decide)
    · next heq =>
      obtain ⟨rfl, -⟩ := List.cons.inj heq
      exact absurd hc (by decide)
    · rfl

theorem takeSign_decimalInt (n : Int) :
    takeSign (decimalInt n) = (decide (n < 0), decimal n.natAbs) := by
  cases n with
  | ofNat n =>
    have h : ¬ Int.ofNat n < 0 := Int.not_lt.2 (Int.natCast_nonneg n)
    rw [decide_eq_false h]
    exact takeSign_decimal n
  | negSucc n =>
    have h : Int.negSucc n < 0 := Int.negSucc_lt_zero n
    rw [decide_eq_true h]
    rfl

theorem signed_natAbs (n : Int) : signed (decide (n < 0)) n.natAbs = n := by
  unfold signed
  by_cases h : n < 0
  · rw [decide_eq_true h, if_pos rfl]
    omega
  · rw [decide_eq_false h, if_neg Bool.false_ne_true]
    omega

end Settings.Number
