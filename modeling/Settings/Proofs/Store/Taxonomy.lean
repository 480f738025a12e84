import Mathlib
import Settings.Proofs.Duration.Overlong
import Settings.Proofs.Store.RoundTrip

/-!
# How typed calls fail

A typed read or write that fails is reported as a configuration error of one of few kinds,
with one exception: a numeral of more than `digitLimit` digits cannot be converted to an
integer, nor an integer to such a numeral, and what fails then is the conversion.  The
exception is exact.  A numeral whose integer does not fit is out of range as long as it can
be converted.

## Main definitions

* `SpellsInteger` — a text is written as an integer.
* `ErrorKind.OfRead`, `ErrorKind.OfWrite` — the errors of typed reads and writes.
* `Store.source?` — the text that a typed read converts.
* `Accessor.Overlong` — it has the right form for the accessor, but too many digits.

## Main results

* `parseInteger_of_spells` — what becomes of a text that is written as an integer.
* `Store.read_closedUnless`, `Store.set_closedUnless` — reads and writes, one by one.
* `Store.closed_unless_overlong` — **typed calls fail in no other way.**
-/

namespace Settings

open Number Text

/-- The text is written as an optional sign and digits. -/
structure SpellsInteger (text : String) (negative : Bool) (digits : List Char) : Prop where
  ne_nil : digits ≠ []
  digit : ∀ c ∈ digits, '0' ≤ c ∧ c ≤ '9'
  parts : text.toList = Duration.minus negative ++ digits ∨
    negative = false ∧ text.toList = '+' :: digits

/-- The errors of typed reads. -/
inductive ErrorKind.OfRead : ErrorKind → Prop
  | typeMismatch (key : Value) (expected actual : Option ValueType) :
      OfRead (.typeMismatch key expected actual)
  | missingDefault (key : Value) : OfRead (.missingDefault key)
  | text {kind : ErrorKind} (h : kind.AboutText) : OfRead kind

/-- The errors of typed writes. -/
inductive ErrorKind.OfWrite : ErrorKind → Prop
  | typeMismatch (key : Value) (expected actual : Option ValueType) :
      OfWrite (.typeMismatch key expected actual)

/-- The text has the form that the accessor reads, but too many digits. -/
def Accessor.Overlong (text : String) : Accessor → Prop
  | .integer _ => ∃ negative digits, SpellsInteger text negative digits ∧
      digitLimit < digits.length
  | .duration => ∃ digits, Duration.Overlong text digits
  | _ => False

/-! ### Integers -/

section Integer

variable {value : String} {negative : Bool} {digits : List Char}

theorem SpellsInteger.integerLiteral? (h : SpellsInteger value negative digits) :
    integerLiteral? value.toList = some (negative, digits) := by
  have hdigit : ∀ c ∈ digits, isAsciiDigit c = true := fun c hc =>
    (Duration.isAsciiDigit_iff c).2 (h.digit c hc)
  have hsign : takeSign value.toList = (negative, digits) := by
    rcases h.parts with htext | ⟨rfl, htext⟩
    · rw [htext]
      cases negative with
      | true => rfl
      | false =>
        -- without a sign the first character is a digit
        change takeSign digits = (false, digits)
        unfold takeSign
        split
        · exact absurd (hdigit '-' List.mem_cons_self) (by decide)
        · exact absurd (hdigit '+' List.mem_cons_self) (by decide)
        · rfl
    · rw [htext]
      rfl
  unfold Settings.integerLiteral?
  rw [hsign]
  exact if_pos ⟨h.ne_nil, List.all_eq_true.2 hdigit⟩

theorem spells_of_integerLiteral? (h : integerLiteral? value.toList = some (negative, digits)) :
    SpellsInteger value negative digits := by
  unfold integerLiteral? at h
  dsimp only at h
  split at h
  · next hparts =>
    obtain ⟨hneg, hdig⟩ := Prod.mk.inj (Option.some.inj h)
    refine ⟨hdig ▸ hparts.1, ?_, ?_⟩
    · rw [← hdig]
      exact fun c hc => (Duration.isAsciiDigit_iff c).1 (List.all_eq_true.1 hparts.2 c hc)
    · rw [← hneg, ← hdig]
      unfold takeSign
      split
      · exact Or.inl ‹_›
      · exact Or.inr ⟨rfl, ‹_›⟩
      · exact Or.inl rfl
  · exact nomatch h

/-- **What becomes of a text that is written as an integer**: it is converted, if it is not too
long, and then checked for the width. -/
theorem parseInteger_of_spells (h : SpellsInteger value negative digits) (key : String)
    (w : IntWidth) :
    parseInteger key value w
      = if digitLimit < digits.length then .error (.numeral (.tooLongToRead digits.length))
        else if w.holds (Duration.literalValue negative digits) then
          .ok (Duration.literalValue negative digits)
        else .error (.integerOutOfRange key w value (Duration.literalValue negative digits)) := by
  unfold parseInteger
  rw [h.integerLiteral?]
  dsimp only
  rw [Duration.signed_digitsValue]

/-- An integer that is not too long is read, malformed, or out of range. -/
theorem parseInteger_closedUnless (key value : String) (w : IntWidth) :
    ClosedUnless ((Accessor.integer w).Overlong value) ErrorKind.AboutText
      (parseInteger key value w) where
  within hlong := by
    cases hliteral : integerLiteral? value.toList with
    | none =>
      refine Within.raises (.format (.text value)) ⟨.malformedInteger key value, _, ?_, rfl⟩
      unfold parseInteger
      rw [hliteral]
    | some literal =>
      obtain ⟨negative, digits⟩ := literal
      have hspells := spells_of_integerLiteral? hliteral
      have hshort : ¬ digitLimit < digits.length := fun h =>
        hlong ⟨negative, digits, hspells, h⟩
      rw [parseInteger_of_spells hspells, if_neg hshort]
      split
      · exact Within.ok _
      · exact Within.raises (.range (.int _)) ⟨_, _, rfl, rfl⟩
  escapes := by
    rintro ⟨negative, digits, hspells, hlong⟩
    exact ⟨_, (parseInteger_of_spells hspells key w).trans (if_pos hlong)⟩

end Integer

namespace Store

/-- The text that a typed read converts: the value of the key or of its old key, and for a
duration else the default. -/
def source? (s : Store) (a : Accessor) (key : String) (d : Scalar) : Option String :=
  match a, d with
  | .integer _, _ => s.get key
  | .duration, .text t => some ((s.get key).getD t)
  | .duration, _ => s.get key
  | _, _ => none

/-- What a typed read converts is too long. -/
def ReadsOverlong (s : Store) (a : Accessor) (key : String) (d : Scalar) : Prop :=
  d.type = a.type ∧ ∃ text, s.source? a key d = some text ∧ a.Overlong text

/-! ### Reads -/

section Read

variable (s : Store) (key : String)

theorem getInteger_closedUnless (w : IntWidth) (n : Int) :
    ClosedUnless (s.ReadsOverlong (.integer w) key (.int n)) ErrorKind.AboutText
      (s.getInteger w (.declared key (.int n))) := by
  cases hget : s.get key with
  | none =>
    have hread : s.getInteger w (.declared key (.int n)) = .ok n := by
      simp only [getInteger, Entry.default_declared, Entry.key_declared, hget]
    rw [hread]
    refine Within.closedUnless ?_ (Within.ok n)
    rintro ⟨-, text, htext, -⟩
    exact Option.some_ne_none text (htext.symm.trans hget)
  | some value =>
    rw [getInteger_of_get w rfl hget]
    refine (parseInteger_closedUnless key value w).congr ⟨fun h => ⟨rfl, value, hget, h⟩, ?_⟩
    rintro ⟨-, text, htext, h⟩
    obtain rfl : value = text := Option.some.inj (hget.symm.trans htext)
    exact h

theorem ofText_closedUnless_source {d : Scalar} {text : String} (ht : d.type = .text)
    (h : s.source? .duration key d = some text) :
    ClosedUnless (s.ReadsOverlong .duration key d) ErrorKind.AboutText
      (Duration.ofText text) := by
  refine (Duration.ofText_closedUnless text).congr ⟨fun hlong => ⟨ht, text, h, hlong⟩, ?_⟩
  rintro ⟨-, text', h', hlong⟩
  obtain rfl : text = text' := Option.some.inj (h.symm.trans h')
  exact hlong

theorem getDuration_closedUnless {d : Scalar} (ht : d.type = .text) :
    ClosedUnless (s.ReadsOverlong .duration key d) ErrorKind.OfRead
      (s.getDuration (.declared key d)) := by
  cases d with
  | null =>
    cases hget : s.get key with
    | none =>
      have hread : s.getDuration (.declared key .null) = .error (.missingDuration key) := by
        simp only [getDuration, Entry.default_declared, Entry.key_declared, hget]
      rw [hread]
      refine Within.closedUnless ?_ (Within.raises (.missingDefault (.text key)) ⟨_, _, rfl, rfl⟩)
      rintro ⟨-, text, htext, -⟩
      exact Option.some_ne_none text (htext.symm.trans hget)
    | some value =>
      rw [getDuration_of_get rfl hget]
      exact (s.ofText_closedUnless_source key ht hget).mono fun _ => .text
  | text t => exact (s.ofText_closedUnless_source key ht rfl).mono fun _ => .text
  | bool b => cases ht
  | int n => cases ht

theorem read_duration (e : Entry) :
    s.read .duration e = (s.getDuration e).map fun ms : Nat => .int ms := by
  rw [read]
  cases s.getDuration e <;> rfl

/-- **A typed read fails as it should** unless what it converts is too long. -/
theorem read_closedUnless (a : Accessor) (d : Scalar) :
    ClosedUnless (s.ReadsOverlong a key d) ErrorKind.OfRead
      (s.perform (.read a (.declared key d))).result := by
  by_cases ht : d.type = a.type
  · rw [perform_read]
    refine ClosedUnless.map _ ?_
    cases a with
    | string =>
      have hok : ∃ text?, s.getString (.declared key d) = .ok text? := by
        cases d with
        | null => exact ⟨_, rfl⟩
        | text t => exact ⟨_, rfl⟩
        | bool b => exact nomatch ht
        | int n => exact nomatch ht
      obtain ⟨text?, hok⟩ := hok
      refine Within.closedUnless ?_ ?_
      · rintro ⟨-, text, -, hlong⟩
        exact hlong
      · rw [read, hok]
        exact Within.ok _
    | boolean =>
      obtain ⟨b, rfl⟩ : ∃ b, d = .bool b := by
        obtain ⟨b, hb⟩ := Value.eq_bool_of_type (v := .scalar d) ht
        exact ⟨b, Value.scalar.inj hb⟩
      refine Within.closedUnless ?_ (Within.ok _)
      rintro ⟨-, text, -, hlong⟩
      exact hlong
    | integer w =>
      obtain ⟨n, rfl⟩ : ∃ n, d = .int n := by
        obtain ⟨n, hn⟩ := Value.eq_int_of_type (v := .scalar d) ht
        exact ⟨n, Value.scalar.inj hn⟩
      exact ((s.getInteger_closedUnless key w n).mono fun _ => .text).map _
    | duration =>
      rw [read_duration]
      exact (s.getDuration_closedUnless key ht).map _
  · refine Within.closedUnless (fun hlong => ht hlong.1) ?_
    exact Within.raises (.typeMismatch _ _ _)
      (raises_read_of_type_ne s (e := .declared key d) ht)

/-- An integer that can be converted but does not have the width is out of range. -/
theorem raises_range_of_outside {value : String} {negative : Bool} {digits : List Char}
    (h : SpellsInteger value negative digits) (hlimit : digits.length ≤ digitLimit)
    (hget : s.get key = some value) (w : IntWidth) (n : Int)
    (hrange : ¬ (-2 ^ (w.bits - 1) ≤ Duration.literalValue negative digits ∧
      Duration.literalValue negative digits ≤ 2 ^ (w.bits - 1) - 1)) :
    Raises (s.perform (.read (.integer w) (.declared key (.int n)))).result
      (.range (.int (Duration.literalValue negative digits))) := by
  have hholds : ¬ w.holds (Duration.literalValue negative digits) = true := by
    rw [w.holds_iff]
    exact hrange
  rw [perform_read]
  refine Raises.map _ ?_
  rw [read, getInteger_of_get (e := .declared key (.int n)) w rfl hget, Entry.key_declared,
    parseInteger_of_spells h, if_neg (Nat.not_lt.2 hlimit), if_neg hholds]
  exact Raises.map _ ⟨_, _, rfl, rfl⟩

end Read

/-! ### Writes -/

/-- The integer has the type of the default and more digits than can be converted. -/
def WritesOverlong (d v : Scalar) : Prop :=
  ∃ n, v = .int n ∧ d.type = .int ∧ digitLimit < (Nat.toDigits 10 n.natAbs).length

/-- **A typed write fails as it should** unless what it converts is too long. -/
theorem set_closedUnless (s : Store) (key : String) (d v : Scalar) :
    ClosedUnless (WritesOverlong d v) ErrorKind.OfWrite
      (s.perform (.set (.entry (.declared key d)) v)).result := by
  by_cases hnull : v = .null
  · subst hnull
    refine Within.closedUnless ?_ (Within.ok _)
    rintro ⟨n, hn, -⟩
    exact nomatch hn
  · have hv : (v : Value) ≠ .null := fun h => hnull (Value.scalar.inj h)
    by_cases ht : v.type = d.type
    · constructor
      · intro hlong
        have hdigits : ∀ n, (v : Value) = .int n →
            (Nat.toDigits 10 n.natAbs).length ≤ digitLimit := by
          intro n hn
          obtain rfl : v = .int n := Value.scalar.inj hn
          exact Nat.not_lt.1 fun h => hlong ⟨n, rfl, ht.symm, h⟩
        obtain ⟨text, htext⟩ := exists_rendering? (v := v) ht hdigits
        rw [set_of_rendering? s (e := .declared key d) hv ht htext]
        exact Within.ok _
      · rintro ⟨n, rfl, -, hlong⟩
        have hstored : (Value.int n).stored = .error .tooLongToWrite := by
          rw [Value.stored_int, printInteger, decimal_eq_toDigits,
            if_neg (Nat.not_le.2 hlong)]
        have hset := setEntry_of_type_eq s (e := .declared key d) hv ht
        rw [hstored] at hset
        refine ⟨.tooLongToWrite, ?_⟩
        change (s.setEntry (.declared key d) (.int n)).result.map _ = _
        rw [hset]
        rfl
    · refine Within.closedUnless ?_ ?_
      · rintro ⟨n, rfl, hd, -⟩
        exact ht hd.symm
      · exact Within.raises (.typeMismatch _ _ _)
          (raises_set_of_type_ne s (e := .declared key d) hv ht)

/-! ### All of them -/

/-- **Typed calls fail in no other way** than the kinds of errors say, unless what they
convert has more than `digitLimit` digits; then, and only then, the conversion fails.  A literal
that can be converted but has more than 64 bits is malformed as a duration, and one that does
not have the width is out of range as an integer. -/
theorem closed_unless_overlong (s : Store) :
    (∀ a key d, ClosedUnless (s.ReadsOverlong a key d) ErrorKind.OfRead
        (s.perform (.read a (.declared key d))).result) ∧
      (∀ text?, ClosedUnless
        (∃ text digits, text? = some text ∧ Duration.Overlong text digits)
        ErrorKind.AboutText (Duration.parse text?)) ∧
      (∀ text negative digits unit, Duration.Spells text negative digits unit →
        digits.length ≤ digitLimit →
        ¬ (-2 ^ 63 ≤ Duration.literalValue negative digits ∧
          Duration.literalValue negative digits ≤ 2 ^ 63 - 1) →
        Raises (Duration.parse (some text)) (.format (.text text))) ∧
      (∀ value negative digits key, SpellsInteger value negative digits →
        digits.length ≤ digitLimit → s.get key = some value → ∀ (w : IntWidth) n,
        ¬ (-2 ^ (w.bits - 1) ≤ Duration.literalValue negative digits ∧
          Duration.literalValue negative digits ≤ 2 ^ (w.bits - 1) - 1) →
        Raises (s.perform (.read (.integer w) (.declared key (.int n)))).result
          (.range (.int (Duration.literalValue negative digits)))) ∧
      ∀ key d v, ClosedUnless (WritesOverlong d v) ErrorKind.OfWrite
        (s.perform (.set (.entry (.declared key d)) (.scalar v))).result :=
  ⟨fun a key d => s.read_closedUnless key a d, Duration.parse_closedUnless,
    fun _ _ _ _ h hlimit hrange => Duration.raises_format_of_outside h hlimit hrange,
    fun _ _ _ key h hlimit hget w n hrange =>
      s.raises_range_of_outside key h hlimit hget w n hrange,
    s.set_closedUnless⟩

/-- One more than the greatest integer of 32 bits, with a sign. -/
theorem range_of_wide_integer :
    (reached ⟨.empty, .empty⟩ none [.set (.name "k") (.text "+2147483648")]).get "k"
        = some "+2147483648" ∧
      Raises ((reached ⟨.empty, .empty⟩ none [.set (.name "k") (.text "+2147483648")]).perform
        (.read (.integer .int32) (.declared "k" (.int 0)))).result (.range (.int 2147483648)) := by
  have hget : (reached ⟨.empty, .empty⟩ none [.set (.name "k") (.text "+2147483648")]).get "k"
      = some "+2147483648" := rfl
  have hspells : SpellsInteger "+2147483648" false
      ['2', '1', '4', '7', '4', '8', '3', '6', '4', '8'] :=
    ⟨by decide, by simp, Or.inr ⟨rfl, by decide⟩⟩
  have hvalue : Duration.literalValue false ['2', '1', '4', '7', '4', '8', '3', '6', '4', '8']
      = 2147483648 := by decide
  obtain ⟨-, -, -, hrange, -⟩ := closed_unless_overlong
    (reached ⟨.empty, .empty⟩ none [.set (.name "k") (.text "+2147483648")])
  have hraises := hrange "+2147483648" false _ "k" hspells (by decide) hget .int32 0
    (by rw [hvalue]; decide)
  rw [hvalue] at hraises
  exact ⟨hget, hraises⟩

/-! ### A numeral that is too long -/

/-- One more `1` than can be converted. -/
def ones : String := String.ofList (List.replicate (digitLimit + 1) '1')

theorem toList_ones : ones.toList = List.replicate (digitLimit + 1) '1' := String.toList_ofList

theorem digit_of_mem_ones : ∀ c ∈ List.replicate (digitLimit + 1) '1', '0' ≤ c ∧ c ≤ '9' := by
  intro c hc
  rw [List.eq_of_mem_replicate hc]
  decide

theorem length_ones : digitLimit < (List.replicate (digitLimit + 1) '1').length := by
  rw [List.length_replicate]
  exact Nat.lt_succ_self digitLimit

theorem overlong_ones : Duration.Overlong ones (List.replicate (digitLimit + 1) '1') where
  long := length_ones
  digit := digit_of_mem_ones
  parts := by
    refine ⟨false, [], [], [], by simp, by simp, by simp, ?_⟩
    rw [toList_ones, List.append_nil, List.append_nil]
    rfl

theorem spellsInteger_ones :
    SpellsInteger ones false (List.replicate (digitLimit + 1) '1') where
  ne_nil := List.ne_nil_of_length_pos (Nat.lt_of_le_of_lt (Nat.zero_le _) length_ones)
  digit := digit_of_mem_ones
  parts := Or.inl toList_ones

/-- As a duration, as the value of an integer entry and as an integer to be written, what has
too many digits fails without a configuration error. -/
theorem escapes_of_ones :
    ¬ Within ErrorKind.AboutText (Duration.parse (some ones)) ∧
      ¬ Within ErrorKind.OfRead
        ((reached ⟨.empty, .empty⟩ none [.set (.name "k") (.text ones)]).perform
          (.read (.integer .int64) (.declared "k" (.int 0)))).result ∧
      ¬ Within ErrorKind.OfWrite
        ((reached ⟨.empty, .empty⟩ none []).perform
          (.set (.entry (.declared "k" (.int 0))) (.int (10 ^ digitLimit : Nat)))).result := by
  refine ⟨?_, ?_, ?_⟩
  · rw [Duration.parse_some, Duration.ofText_of_overlong overlong_ones]
    exact not_within_numeral _
  · have hget : (reached ⟨.empty, .empty⟩ none [.set (.name "k") (.text ones)]).get "k"
        = some ones := get_write _ "k" ones
    rw [(read_closedUnless _ "k" (.integer .int64) (.int 0)).within_iff, not_not]
    exact ⟨rfl, ones, hget, false, _, spellsInteger_ones, length_ones⟩
  · rw [(set_closedUnless _ "k" (.int 0) _).within_iff, not_not]
    refine ⟨_, rfl, rfl, ?_⟩
    rw [Int.natAbs_natCast, ← decimal_eq_toDigits, ← Nat.not_le, length_decimal_le_iff (by decide)]
    exact Nat.lt_irrefl _

end Store

end Settings
