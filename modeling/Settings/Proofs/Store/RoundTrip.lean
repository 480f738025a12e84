import Mathlib
import Settings.Proofs.Fault
import Settings.Proofs.Store.Effect

/-!
# Typed writes and the reads after them

A typed write is refused unless its value has the type of the default.  What has been
written is read back by every entry of that type with the same key: the text that a value
is turned into is one that the reader of the type turns back.  An integer may be too large
for the width that it is read with; the error then has the integer that was written.

## Main definitions

* `Store.ReadsBack` — what an entry reads is the value that was written.

## Main results

* `parseInteger_numeralInt` — reading the numeral of an integer, within a width.
* `Store.typed_round_trip` — **typed writes are read back.**
-/

namespace Settings

open Number Text

/-! ### Texts of values, read back -/

theorem isTrue_bool (b : Bool) : isTrue (if b then "true" else "false") = b := by
  cases b <;> decide

theorem integerLiteral?_decimalInt (n : Int) :
    integerLiteral? (decimalInt n) = some (decide (n < 0), decimal n.natAbs) := by
  have hdigits : (decimal n.natAbs).all isAsciiDigit = true :=
    List.all_eq_true.2 (isAsciiDigit_of_mem_decimal n.natAbs)
  unfold integerLiteral?
  rw [takeSign_decimalInt]
  exact if_pos ⟨decimal_ne_nil n.natAbs, hdigits⟩

/-- **Reading the numeral of an integer** gives the integer if the width has it, and else an
error about that integer. -/
theorem parseInteger_numeralInt (key : String) {n : Int}
    (h : (decimal n.natAbs).length ≤ digitLimit) (w : IntWidth) :
    parseInteger key (numeralInt n) w
      = if w.holds n then .ok n else .error (.integerOutOfRange key w (numeralInt n) n) := by
  have hlist : (numeralInt n).toList = decimalInt n := String.toList_ofList
  unfold parseInteger
  rw [hlist, integerLiteral?_decimalInt]
  dsimp only
  rw [if_neg (Nat.not_lt.2 h), digitsValue_decimal, signed_natAbs]

namespace Store

/-! ### The writes -/

theorem get_write (s : Store) (key value : String) :
    (s.write key value).1.get key = some value := by
  have hfind : (s.write key value).1.config.find? (.text key) = some value := by
    rw [config_write, OrderedMap.find?_insert, if_pos rfl]
  unfold get
  rw [hfind]

/-- A value of the type of a scalar can be turned into text, if it is not an integer that is
too long. -/
theorem exists_rendering? {v : Value} {d : Scalar} (ht : v.type = d.type)
    (hdigits : ∀ n, v = .int n → (Nat.toDigits 10 n.natAbs).length ≤ digitLimit) :
    ∃ text, v.rendering? = some text := by
  cases v with
  | scalar s =>
    cases s with
    | null => exact ⟨_, rfl⟩
    | bool b => exact ⟨_, rfl⟩
    | int n => exact ⟨_, if_pos (hdigits n rfl)⟩
    | text t => exact ⟨t, rfl⟩
  | _ =>
    -- nothing else has the type of a scalar
    cases d <;> exact nomatch ht

theorem set_of_rendering? (s : Store) {e : Entry} {v : Value} (hv : v ≠ .null)
    (ht : v.type = e.default.type) {text : String} (htext : v.rendering? = some text) :
    s.perform (.set (.entry e) v)
      = ⟨.ok .done, (s.write e.key text).1, (s.write e.key text).2⟩ := by
  have hset : s.setEntry e v = ⟨.ok (), (s.write e.key text).1, (s.write e.key text).2⟩ := by
    rw [setEntry_of_type_eq s hv ht, Value.stored_eq_ok_iff.2 htext]
  change ofChange (s.setEntry e v) = _
  rw [hset]
  rfl

theorem raises_set_of_type_ne (s : Store) {e : Entry} {v : Value} (hv : v ≠ .null)
    (ht : v.type ≠ e.default.type) :
    Raises (s.perform (.set (.entry e) v)).result
      (.typeMismatch (.text e.key) (some e.default.type) (some v.type)) := by
  have hset := setEntry_of_type_ne s hv ht
  refine ⟨.wrongValueType e.key e.default.type v.type, _, ?_, rfl⟩
  change (s.setEntry e v).result.map _ = _
  rw [hset]
  rfl

theorem raises_read_of_type_ne (s : Store) {a : Accessor} {e : Entry}
    (h : e.default.type ≠ a.type) :
    Raises (s.perform (.read a e)).result
      (.typeMismatch (.text e.key) (some e.default.type) (some a.type)) := by
  refine ⟨.wrongAccessor e.key e.default.type a.type, _, ?_, rfl⟩
  change (s.read a e).map _ = _
  rw [read_of_type_ne s h]
  rfl

/-! ### The reads -/

/-- What an entry reads is the value that was written, if that has the type of the entry:
an integer only within a width that has it, and a text also as a duration. -/
structure ReadsBack (s : Store) (e : Entry) (v : Value) : Prop where
  /-- A truth value is read as it is. -/
  bool : ∀ b, v = .bool b → e.default.type = .bool →
    (s.perform (.read .boolean e)).result = .ok (.scalar (.bool b))
  /-- An integer is read as it is within a width that has it. -/
  int : ∀ n w, v = .int n → e.default.type = .int →
    -2 ^ (w.bits - 1) ≤ n → n ≤ 2 ^ (w.bits - 1) - 1 →
      (s.perform (.read (.integer w) e)).result = .ok (.scalar (.int n))
  /-- An integer is out of the range of any other width. -/
  range : ∀ n w, v = .int n → e.default.type = .int →
    ¬ (-2 ^ (w.bits - 1) ≤ n ∧ n ≤ 2 ^ (w.bits - 1) - 1) →
      Raises (s.perform (.read (.integer w) e)).result (.range (.int n))
  /-- A text is read as it is. -/
  text : ∀ t, v = .text t → e.default.type = .text →
    (s.perform (.get (.entry e))).result = .ok (.scalar (.text t))
  /-- A text is read as the duration that it writes, or refused as it would be alone. -/
  duration : ∀ t, v = .text t → e.default.type = .text →
    (s.perform (.read .duration e)).result
      = (Duration.ofText t).map fun ms => .scalar (.int ms)

theorem perform_read (s : Store) (a : Accessor) (e : Entry) :
    (s.perform (.read a e)).result = (s.read a e).map .scalar := rfl

theorem eq_numeralInt_of_rendering? {n : Int} {text : String}
    (h : (Value.int n).rendering? = some text) :
    (decimal n.natAbs).length ≤ digitLimit ∧ numeralInt n = text := by
  rw [← Value.stored_eq_ok_iff, Value.stored_int, printInteger] at h
  split at h
  · next hn => exact ⟨hn, Except.ok.inj h⟩
  · cases h

/-- The integer whose numeral a key has is read within a width that has it. -/
theorem readInteger_of_get {s : Store} {e : Entry} {n : Int} (w : IntWidth)
    (ht : e.default.type = .int) (hn : (decimal n.natAbs).length ≤ digitLimit)
    (h : s.get e.key = some (numeralInt n)) :
    s.read (.integer w) e
      = if w.holds n then .ok (.int n)
        else .error (.integerOutOfRange e.key w (numeralInt n) n) := by
  rw [read, getInteger_of_get w ht h, parseInteger_numeralInt e.key hn]
  split <;> rfl

/-- A key that has the text of a value is read back as that value. -/
theorem readsBack_of_get {s : Store} {e : Entry} {v : Value} {text : String}
    (htext : v.rendering? = some text) (h : s.get e.key = some text) : s.ReadsBack e v where
  bool := by
    rintro b rfl ht
    obtain rfl : (if b then "true" else "false") = text := Option.some.inj htext
    rw [perform_read, read, getBoolean_of_get ht h, isTrue_bool]
    rfl
  int := by
    rintro n w rfl ht hlow hhigh
    obtain ⟨hn, rfl⟩ := eq_numeralInt_of_rendering? htext
    rw [perform_read, readInteger_of_get w ht hn h, if_pos ((w.holds_iff n).2 ⟨hlow, hhigh⟩)]
    rfl
  range := by
    rintro n w rfl ht hout
    obtain ⟨hn, rfl⟩ := eq_numeralInt_of_rendering? htext
    refine ⟨.integerOutOfRange e.key w (numeralInt n) n, _, ?_, rfl⟩
    rw [perform_read, readInteger_of_get w ht hn h, if_neg fun hw => hout ((w.holds_iff n).1 hw)]
    rfl
  text := by
    rintro t rfl ht
    obtain rfl : t = text := Option.some.inj htext
    change (s.read .string e).map _ = _
    rw [read, getString_of_get ht h]
    rfl
  duration := by
    rintro t rfl ht
    obtain rfl : t = text := Option.some.inj htext
    rw [perform_read, read, getDuration_of_get ht h]
    cases Duration.ofText t <;> rfl

/-! ### Written and read -/

/-- **Typed writes are read back.**  A value can be written if it has the type of the default,
and then every entry with that key reads it back as its type says; otherwise the write is
refused, and so is a read as any other type than that of the entry. -/
theorem typed_round_trip (s : Store) {e : Entry} {d : Scalar} (he : e.default = .scalar d)
    {v : Value} (hv : v ≠ .null)
    (hdigits : ∀ n, v = .int n → (Nat.toDigits 10 n.natAbs).length ≤ digitLimit) :
    ((s.perform (.set (.entry e) v)).result = .ok .done ↔ v.type = d.type) ∧
      (v.type ≠ d.type → Raises (s.perform (.set (.entry e) v)).result
        (.typeMismatch (.text e.key) (some d.type) (some v.type))) ∧
      (v.type = d.type → ∀ e' : Entry, e'.key = e.key →
        (s.perform (.set (.entry e) v)).store.ReadsBack e' v) ∧
      ∀ (s' : Store) (a : Accessor) (e' : Entry), e'.default.type ≠ a.type →
        Raises (s'.perform (.read a e')).result
          (.typeMismatch (.text e'.key) (some e'.default.type) (some a.type)) := by
  have htype : e.default.type = d.type := congrArg Value.type he
  have hrefused : v.type ≠ d.type → Raises (s.perform (.set (.entry e) v)).result
      (.typeMismatch (.text e.key) (some d.type) (some v.type)) := by
    intro ht
    rw [← htype] at ht ⊢
    exact raises_set_of_type_ne s hv ht
  refine ⟨⟨?_, ?_⟩, hrefused, ?_, ?_⟩
  · intro hok
    by_contra ht
    obtain ⟨fault, message, hfault, -⟩ := hrefused ht
    rw [hok] at hfault
    exact nomatch hfault
  · intro ht
    obtain ⟨text, htext⟩ := exists_rendering? ht hdigits
    rw [set_of_rendering? s hv (ht.trans htype.symm) htext]
  · intro ht e' hkey
    obtain ⟨text, htext⟩ := exists_rendering? ht hdigits
    rw [set_of_rendering? s hv (ht.trans htype.symm) htext]
    -- the key has a value of its own now, so that no old key is asked for
    refine readsBack_of_get htext ?_
    rw [hkey]
    exact get_write s e.key text
  · intro s' a e' ht
    exact raises_read_of_type_ne s' ht

/-- The least integer of 32 bits is read back, whatever the default of the entry. -/
theorem typed_round_trip_of_low :
    (Value.int (-2147483648) ≠ .null ∧ ∀ n, Value.int (-2147483648) = .int n →
      (Nat.toDigits 10 n.natAbs).length ≤ digitLimit) ∧
      ((((fresh ⟨.empty, .empty⟩).perform
            (.set (.entry (.declared "k" (.int 0))) (.int (-2147483648)))).store).perform
          (.read (.integer .int32) (.declared "k" (.int 7)))).result
        = .ok (.scalar (.int (-2147483648))) := by
  have hvalue : (Value.int (-2147483648)) ≠ .null := by simp
  have hdigits : ∀ n, Value.int (-2147483648) = .int n →
      (Nat.toDigits 10 n.natAbs).length ≤ digitLimit := by
    intro n hn
    obtain rfl : -2147483648 = n := by simpa using hn
    decide
  obtain ⟨-, -, hback, -⟩ := typed_round_trip (fresh ⟨.empty, .empty⟩)
    (e := .declared "k" (.int 0)) rfl hvalue hdigits
  have hread := hback rfl (.declared "k" (.int 7)) rfl
  exact ⟨⟨hvalue, hdigits⟩, hread.int _ .int32 rfl rfl (by decide) (by decide)⟩

end Store

end Settings
