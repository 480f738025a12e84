import Mathlib
import Settings.Proofs.Duration.Grammar
import Settings.Proofs.Number.Numeral

/-!
# Laws of durations

A count that is written in decimal with a unit behind it is read as that many units.  So the
laws of durations are those of `converted`, which scales the count, rounds down and is capped:
more units are never shorter, the cap included; a count may be moved to a finer unit; and the
milliseconds that are read stay the same when they are written down and read again, since the
cap keeps them among the counts that the parser takes.

## Main definitions

* `Duration.written` — the text of a count of units.

## Main results

* `Duration.parse_written` — a count that is written is read as that many units.
* `Duration.converted_mono`, `Duration.converted_le`, `Duration.converted_mul` — the laws of the
  conversion.
* `Duration.le_of_parse` — no duration is above the cap.
* `Duration.arithmetic` — **the laws of durations as they are written and read.**
-/

namespace Settings

open Number Text

namespace Duration

/-- The text of a count with the suffix of a unit behind it, if there is one. -/
def written (n : Nat) : Option TimeUnit → String
  | none => toString n
  | some u => toString n ++ u.suffix

/-! ### Reading what is written -/

theorem toList_written (n : Nat) (unit : Option TimeUnit) :
    (written n unit).toList = decimal n ++ TimeUnit.letters unit := by
  have hcount : (toString n).toList = decimal n := by
    change (Nat.repr n).toList = decimal n
    rw [Nat.repr_eq_ofList_toDigits, String.toList_ofList, decimal_eq_toDigits]
  cases unit with
  | none => rw [written, hcount, TimeUnit.letters, List.append_nil]
  | some u => rw [written, String.toList_append, hcount, TimeUnit.letters]

/-- Suffixes are in small letters already. -/
theorem map_toLower_letters (unit : Option TimeUnit) :
    (TimeUnit.letters unit).map Char.toLower = TimeUnit.letters unit := by
  cases unit with
  | none => rfl
  | some u => cases u <;> decide

/-- The text of a count of units is one of the grammar. -/
theorem spells_written (n : Nat) (unit : Option TimeUnit) :
    Spells (written n unit) false (decimal n) unit where
  ne_nil := decimal_ne_nil n
  digit c hc := (isAsciiDigit_iff c).1 (isAsciiDigit_of_mem_decimal n c hc)
  parts := by
    refine ⟨[], TimeUnit.letters unit, [], by simp, by simp, map_toLower_letters unit, ?_⟩
    rw [toList_written]
    simp [minus]

theorem literalValue_decimal (n : Nat) : literalValue false (decimal n) = n := by
  rw [← signed_digitsValue, digitsValue_decimal]
  rfl

/-- A count of 64 bits has few digits. -/
theorem length_decimal_le_digitLimit {n : Nat} (h : n ≤ 2 ^ 63 - 1) :
    (decimal n).length ≤ digitLimit := by
  have hshort : (decimal n).length ≤ 19 := (length_decimal_le_iff (by decide)).2 (by omega)
  exact hshort.trans (by decide)

/-- **A count that is written is read as that many units.** -/
theorem parse_written {n : Nat} (h : n ≤ 2 ^ 63 - 1) (unit : Option TimeUnit) :
    parse (some (written n unit)) = .ok (converted n unit) := by
  have hspells := spells_written n unit
  have hlimit : (digitRun (written n unit)).length ≤ digitLimit := by
    rw [hspells.digitRun_eq]
    exact length_decimal_le_digitLimit h
  have hvalue := literalValue_decimal n
  rw [parse_some, ofText_of_nonneg hspells hlimit (by omega) (by omega), hvalue, Int.toNat_natCast]

/-! ### The conversion -/

/-- More units are never shorter. -/
theorem converted_mono (unit : Option TimeUnit) {n m : Nat} (h : n ≤ m) :
    converted n unit ≤ converted m unit := by
  cases unit with
  | none => exact h
  | some u =>
    have hscaled : n * u.micros / 1000 ≤ m * u.micros / 1000 :=
      Nat.div_le_div_right (Nat.mul_le_mul_right _ h)
    exact min_le_min_right _ hscaled

theorem converted_le {n : Nat} (h : n ≤ 2 ^ 63 - 1) (unit : Option TimeUnit) :
    converted n unit ≤ 2 ^ 63 - 1 := by
  cases unit with
  | none => exact h
  | some u => exact min_le_right _ _

/-- A count of a unit is as long as the multiple of a finer unit, up to the cap and beyond. -/
theorem converted_mul {coarse fine : TimeUnit} {q : Nat} (h : coarse.micros = q * fine.micros)
    (n : Nat) : converted (q * n) (some fine) = converted n (some coarse) := by
  have hsame : q * n * fine.micros = n * coarse.micros := by
    rw [h]
    ring
  rw [converted, converted, hsame]

/-- A unit is not finer than itself. -/
theorem one_le_of_micros {coarse fine : TimeUnit} {q : Nat}
    (h : coarse.micros = q * fine.micros) : 1 ≤ q := by
  rcases Nat.eq_zero_or_pos q with rfl | hq
  · rw [Nat.zero_mul] at h
    cases coarse <;> exact absurd h (by decide)
  · exact hq

/-- So many milliseconds are as many, with their unit or without. -/
theorem converted_ms {n : Nat} (h : n ≤ 2 ^ 63 - 1) : converted n (some .ms) = n := by
  have hdiv : n * TimeUnit.ms.micros / 1000 = n := Nat.mul_div_cancel n (by decide)
  rw [converted, hdiv]
  exact min_eq_left h

/-! ### The cap -/

theorem le_of_ofLiteral {text : String} {count : Int} {letters : List Char} {ms : Nat}
    (h : ofLiteral text count letters = .ok ms) : ms ≤ 2 ^ 63 - 1 := by
  unfold ofLiteral at h
  split at h
  · exact nomatch h
  · next hholds =>
    have hrange := (holds_int64_iff count).1 (by simpa using hholds)
    split at h
    · split at h
      · exact nomatch h
      · obtain rfl : count.toNat = ms := Except.ok.inj h
        omega
    · exact nomatch h
    · split at h
      · exact nomatch h
      · obtain rfl := Except.ok.inj h
        exact min_le_right _ _

/-- **No duration is above the cap.** -/
theorem le_of_parse {text : String} {ms : Nat} (h : parse (some text) = .ok ms) :
    ms ≤ 2 ^ 63 - 1 := by
  rw [parse_some, ofText] at h
  split at h
  · exact nomatch h
  · split at h
    · exact nomatch h
    · exact le_of_ofLiteral h

/-! ### The laws -/

/-- **The laws of durations.**  Of two counts of a unit, or of no unit, that have 64 bits the
smaller one is not read as the longer duration, and neither is above the cap.  A count of a unit
and as much of a finer unit are read as the same duration, be it capped or not.  The milliseconds
that are read of any text are read again when they are written down, with their unit or
without. -/
theorem arithmetic :
    (∀ n m unit, n ≤ m → m ≤ 2 ^ 63 - 1 →
        ∃ short long, parse (some (written n unit)) = .ok short ∧
          parse (some (written m unit)) = .ok long ∧ short ≤ long ∧ long ≤ 2 ^ 63 - 1) ∧
      (∀ (fine coarse : TimeUnit) (q n : Nat), coarse.micros = q * fine.micros →
        q * n ≤ 2 ^ 63 - 1 →
        ∃ ms, parse (some (written (q * n) (some fine))) = .ok ms ∧
          parse (some (written n (some coarse))) = .ok ms) ∧
      ∀ text ms, parse (some text) = .ok ms →
        parse (some (toString ms)) = .ok ms ∧ parse (some (toString ms ++ "ms")) = .ok ms := by
  refine ⟨?_, ?_, ?_⟩
  · intro n m unit hnm hm
    exact ⟨_, _, parse_written (hnm.trans hm) unit, parse_written hm unit,
      converted_mono unit hnm, converted_le hm unit⟩
  · intro fine coarse q n hmicros hn
    have hcoarse : n ≤ 2 ^ 63 - 1 := (Nat.le_mul_of_pos_left n (one_le_of_micros hmicros)).trans hn
    refine ⟨converted n (some coarse), ?_, parse_written hcoarse (some coarse)⟩
    rw [parse_written hn, converted_mul hmicros]
  · intro text ms htext
    have hms := le_of_parse htext
    refine ⟨parse_written hms none, ?_⟩
    have hunit := parse_written hms (some .ms)
    rw [converted_ms hms] at hunit
    exact hunit

/-- More days than the cap allows are as long as their hours, and the cap is read again. -/
theorem arithmetic_of_capped_days :
    (TimeUnit.d.micros = 24 * TimeUnit.h.micros ∧ 24 * 200000000000 ≤ 2 ^ 63 - 1 ∧
        ∃ ms, parse (some "4800000000000h") = .ok ms ∧ parse (some "200000000000d") = .ok ms) ∧
      (parse (some "200000000000d") = .ok 9223372036854775807 ∧
        parse (some "9223372036854775807ms") = .ok 9223372036854775807) ∧
      1 ≤ 999 ∧ 999 ≤ 2 ^ 63 - 1 ∧
        ∃ short long, parse (some "1us") = .ok short ∧ parse (some "999us") = .ok long ∧
          short ≤ long := by
  obtain ⟨hmono, hscale, hback⟩ := arithmetic
  have hmicros : TimeUnit.d.micros = 24 * TimeUnit.h.micros := by decide
  have hcapped : parse (some "200000000000d") = .ok 9223372036854775807 :=
    parse_written (n := 200000000000) (by decide) (some .d)
  obtain ⟨short, long, hshort, hlong, hle, -⟩ := hmono 1 999 (some .us) (by decide) (by decide)
  exact ⟨⟨hmicros, by decide, hscale .h .d 24 200000000000 hmicros (by decide)⟩,
    ⟨hcapped, (hback _ _ hcapped).2⟩, by decide, by decide, short, long, hshort, hlong, hle⟩

end Duration

end Settings
