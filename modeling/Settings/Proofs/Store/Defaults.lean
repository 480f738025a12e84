import Mathlib
import Settings.Proofs.Store.Migration
import Settings.Proofs.Store.RoundTrip

/-!
# Reads of keys without a value

A read of an entry gives its default only if its key is unset: neither the key nor its old key
has a value.  The default is given as it was declared.  An integer that is read from a text has
been checked for the width of the accessor, but the default has not, so that it may be wider
than what the accessor is for.  To write no value under an entry removes its key and nothing
else: the default is read again unless the old key has a value.

## Main definitions

* `Store.Unset` — neither a key nor its old key has a value.
* `Store.ReadsDefault` — what an entry reads is its default.

## Main results

* `Store.readsDefault_of_get` — an entry reads its default if its key is unset.
* `holds_of_parseInteger` — an integer that is read from a text has the width.
* `Store.integer_within_iff` — **which integers accessors keep within their width.**
* `Store.reset_restores_default` — **what is read after an entry has been reset.**
-/

namespace Settings

open History

/-- An integer that is read from a text has the width that it is read with. -/
theorem holds_of_parseInteger {key value : String} {w : IntWidth} {n : Int}
    (h : parseInteger key value w = .ok n) : w.holds n = true := by
  unfold parseInteger at h
  split at h
  · exact nomatch h
  · dsimp only at h
    split at h
    · exact nomatch h
    · split at h
      · next hholds => exact Except.ok.inj h ▸ hholds
      · exact nomatch h

namespace Store

/-! ### Keys without a value -/

/-- Neither the key nor its old key has a value. -/
def Unset (s : Store) (t : Tables) (key : String) : Prop :=
  s.own? key = none ∧ ∀ old, t.oldKey? key = some old → s.own? old = none

/-- A read finds nothing if the key is unset, and only then. -/
theorem get_eq_none_iff {s : Store} {t : Tables} (hs : s.Follows t) (key : String) :
    s.get key = none ↔ s.Unset t key := by
  rw [get_eq, hs.tables, Option.or_eq_none_iff, Option.bind_eq_none_iff, Unset]

/-- What an entry reads is its default, a duration as it is converted. -/
structure ReadsDefault (s : Store) (e : Entry) (d : Scalar) : Prop where
  /-- A truth value is read as it is. -/
  bool : ∀ b, d = .bool b → (s.perform (.read .boolean e)).result = .ok (.scalar (.bool b))
  /-- An integer is read as it is, within any width. -/
  int : ∀ n w, d = .int n → (s.perform (.read (.integer w) e)).result = .ok (.scalar (.int n))
  /-- A text is read as it is, and so is no value. -/
  text : d.type = .text → (s.perform (.read .string e)).result = .ok (.scalar d)
  /-- A text is read as the duration that it writes, or refused as it would be alone. -/
  duration : ∀ t, d = .text t →
    (s.perform (.read .duration e)).result = (Duration.ofText t).map fun ms => .scalar (.int ms)
  /-- No value is no duration. -/
  missing : d = .null →
    Raises (s.perform (.read .duration e)).result (.missingDefault (.text e.key))

/-- An entry reads its default if a read of its key finds nothing. -/
theorem readsDefault_of_get {s : Store} {e : Entry} {d : Scalar} (he : e.default = .scalar d)
    (h : s.get e.key = none) : s.ReadsDefault e d where
  bool := by
    rintro b rfl
    rw [perform_read, read, getBoolean, he, h]
    rfl
  int := by
    rintro n w rfl
    rw [perform_read, read, getInteger, he, h]
    rfl
  text := by
    intro ht
    cases d with
    | null => rw [perform_read, read, getString, he, h]; rfl
    | text t => rw [perform_read, read, getString, he, h]; rfl
    | bool b => cases ht
    | int n => cases ht
  duration := by
    rintro t rfl
    have hread : s.getDuration e = Duration.ofText t := by
      rw [getDuration, he, h]
      rfl
    rw [perform_read, read, hread]
    cases Duration.ofText t <;> rfl
  missing := by
    rintro rfl
    have hread : s.getDuration e = .error (.missingDuration e.key) := by
      rw [getDuration, he, h]
    refine ⟨.missingDuration e.key, _, ?_, rfl⟩
    rw [perform_read, read, hread]
    rfl

/-! ### Widths -/

/-- An integer that is read from a value of the key or of its old key has the width. -/
theorem holds_of_read {s : Store} {e : Entry} {w : IntWidth} {n : Int}
    (ht : e.default.type = .int) (hget : s.get e.key ≠ none)
    (h : (s.perform (.read (.integer w) e)).result = .ok (.scalar (.int n))) :
    w.holds n = true := by
  obtain ⟨value, hvalue⟩ := Option.ne_none_iff_exists'.1 hget
  rw [perform_read, read, getInteger_of_get w ht hvalue] at h
  cases hparse : parseInteger e.key value w with
  | error fault => rw [hparse] at h; cases h
  | ok m =>
    rw [hparse] at h
    obtain rfl : m = n := by simpa using Except.ok.inj h
    exact holds_of_parseInteger hparse

/-- **Which integers accessors keep within their width.**  What is read from a value, be it that
of the key or of its old key, has the width; the default of a key that is unset is given as it is.
So an accessor keeps to its width unless the key is unset and the default does not have it. -/
theorem integer_within_iff (t : Tables) (seed : Option (List (Value × Value)))
    (rs : List Request) {e : Entry} {d : Int} (he : e.default = .int d) (w : IntWidth) :
    let s := reached t seed rs
    let result := (s.perform (.read (.integer w) e)).result
    (¬ s.Unset t e.key → ∀ n, result = .ok (.scalar (.int n)) →
        -2 ^ (w.bits - 1) ≤ n ∧ n ≤ 2 ^ (w.bits - 1) - 1) ∧
      (s.Unset t e.key → result = .ok (.scalar (.int d))) ∧
      ((∀ n, result = .ok (.scalar (.int n)) →
          -2 ^ (w.bits - 1) ≤ n ∧ n ≤ 2 ^ (w.bits - 1) - 1) ↔
        (s.Unset t e.key → -2 ^ (w.bits - 1) ≤ d ∧ d ≤ 2 ^ (w.bits - 1) - 1)) := by
  intro s result
  have hunset := get_eq_none_iff (follows_reached t seed rs) e.key
  have hstored : ¬ s.Unset t e.key → ∀ n, result = .ok (.scalar (.int n)) →
      -2 ^ (w.bits - 1) ≤ n ∧ n ≤ 2 ^ (w.bits - 1) - 1 := by
    intro hset n hn
    have ht : e.default.type = .int := congrArg Value.type he
    exact (w.holds_iff n).1 (holds_of_read ht (mt hunset.1 hset) hn)
  have hdefault : s.Unset t e.key → result = .ok (.scalar (.int d)) := fun h =>
    (readsDefault_of_get he (hunset.2 h)).int d w rfl
  refine ⟨hstored, hdefault, ?_, ?_⟩
  · intro hall h
    exact hall d (hdefault h)
  · intro hd n hn
    by_cases h : s.Unset t e.key
    · obtain rfl : d = n := by simpa using (hdefault h).symm.trans hn
      exact hd h
    · exact hstored h n hn

/-- The least integer of 32 bits is read from an old key, whatever the default. -/
theorem integer_within_of_old_value :
    let t : Tables := ⟨.ofList [("new", ⟨"old", "1", ""⟩)], .empty⟩
    let s := reached t (some [(.text "old", .text "-2147483648")]) []
    let e : Entry := .declared "new" (.int 2147483648)
    e.default = .int 2147483648 ∧ ¬ s.Unset t "new" ∧
      (s.perform (.read (.integer .int32) e)).result = .ok (.scalar (.int (-2147483648))) ∧
      -2 ^ 31 ≤ (-2147483648 : Int) ∧ (-2147483648 : Int) ≤ 2 ^ 31 - 1 := by
  intro t s e
  have hset : ¬ s.Unset t "new" := fun h => nomatch h.2 "old" rfl
  have hread : (s.perform (.read (.integer .int32) e)).result
      = .ok (.scalar (.int (-2147483648))) := rfl
  obtain ⟨hstored, -⟩ := integer_within_iff t (some [(.text "old", .text "-2147483648")]) []
    (e := e) rfl .int32
  exact ⟨rfl, hset, hread, hstored hset (-2147483648) hread⟩

/-- A default that is one too great for the width is given as it is, for both widths. -/
theorem outside_of_wide_default :
    ((reached ⟨.empty, .empty⟩ none []).perform
          (.read (.integer .int32) (.declared "k" (.int 2147483648)))).result
        = .ok (.scalar (.int 2147483648)) ∧
      ¬ (2147483648 : Int) ≤ 2 ^ 31 - 1 ∧
      ((reached ⟨.empty, .empty⟩ none []).perform
          (.read (.integer .int64) (.declared "k" (.int 9223372036854775808)))).result
        = .ok (.scalar (.int 9223372036854775808)) ∧
      ¬ (9223372036854775808 : Int) ≤ 2 ^ 63 - 1 :=
  ⟨rfl, by decide, rfl, by decide⟩

/-! ### Resets -/

/-- A write of no value under an entry is done, and alters the store in the key of the entry. -/
theorem set_null {s : Store} {t : Tables} {past : History} (hs : s.Follows t)
    (hp : s.textPairs = replay past) (e : Entry) :
    (s.perform (.set (.entry e) .null)).result = .ok .done ∧
      Alters s (s.perform (.set (.entry e) .null)).store e.key none :=
  ⟨rfl, alters_of_mutations hs hp (r := .set (.entry e) .null) (m := .remove e.key) rfl⟩

/-- **What is read after an entry has been reset**, that is, after no value has been written
under it.  Its key has no value any more.  If no other key is its old key, or that one has no
value either, a read finds nothing and the entry reads its default; otherwise the entry reads
the value of the old key, as it would if the value were written under the key. -/
theorem reset_restores_default (t : Tables) (seed : Option (List (Value × Value)))
    (rs : List Request) {e : Entry} {d : Scalar} (he : e.default = .scalar d) :
    let s := reached t seed rs
    let o := s.perform (.set (.entry e) .null)
    o.result = .ok .done ∧ o.store.own? e.key = none ∧
      ((∀ old, t.oldKey? e.key = some old → old ≠ e.key → s.own? old = none) →
        o.store.get e.key = none ∧ o.store.ReadsDefault e d) ∧
      ∀ old value, t.oldKey? e.key = some old → old ≠ e.key → s.own? old = some value →
        o.store.get e.key = some value ∧
        ∀ a, (o.store.perform (.read a e)).result
          = ((s.write e.key value).1.perform (.read a e)).result := by
  intro s o
  have hs : s.Follows t := follows_reached t seed rs
  obtain ⟨hdone, halters⟩ := set_null hs (textPairs_reached t seed rs) e
  have hget : o.store.get e.key
      = (t.oldKey? e.key).bind fun old => if old = e.key then none else s.own? old := by
    have hself := halters.get_self
    rw [hs.tables, Option.none_or] at hself
    exact hself
  refine ⟨hdone, (halters.own e.key).trans (if_pos rfl), ?_, ?_⟩
  · intro hold
    have hnone : o.store.get e.key = none := by
      rw [hget, Option.bind_eq_none_iff]
      intro old hold'
      split
      · rfl
      · next hne => exact hold old hold' hne
    exact ⟨hnone, readsDefault_of_get he hnone⟩
  · intro old value hold hne hvalue
    have hsome : o.store.get e.key = some value := by
      rw [hget, hold, Option.bind_some, if_neg hne, hvalue]
    exact ⟨hsome, result_read_congr (hsome.trans (get_write s e.key value).symm)⟩

/-- An entry that is its own old key reads its default after a reset. -/
theorem reset_of_own_old_key :
    let t : Tables := ⟨.ofList [("k", ⟨"k", "1", ""⟩)], .empty⟩
    let s := reached t (some [(.text "k", .text "5"), (.text "j", .text "6")]) []
    let o := s.perform (.set (.entry (.declared "k" (.int 4))) .null)
    (Entry.declared "k" (.int 4)).default = .scalar (.int 4) ∧
      s.get "k" = some "5" ∧ o.result = .ok .done ∧ o.store.get "k" = none ∧
      (o.store.perform (.read (.integer .int32) (.declared "k" (.int 4)))).result
        = .ok (.scalar (.int 4)) := by
  intro t s o
  obtain ⟨hdone, -, hdefault, -⟩ := reset_restores_default t
    (some [(.text "k", .text "5"), (.text "j", .text "6")]) []
    (e := .declared "k" (.int 4)) rfl
  have hold : ∀ old, t.oldKey? "k" = some old → old ≠ "k" → s.own? old = none := by
    intro old h hne
    exact absurd (Option.some.inj h).symm hne
  obtain ⟨hget, hreads⟩ := hdefault hold
  exact ⟨rfl, rfl, hdone, hget, hreads.int 4 .int32 rfl⟩

/-- A reset does not bring the default back as long as the old key has a value. -/
theorem old_value_after_reset :
    let t : Tables := ⟨.ofList [("new", ⟨"old", "1", ""⟩)], .empty⟩
    let s := reached t (some [(.text "old", .text "7")]) []
    let o := s.perform (.set (.entry (.declared "new" (.int 4))) .null)
    o.result = .ok .done ∧ o.store.get "new" ≠ none ∧
      (o.store.perform (.read (.integer .int32) (.declared "new" (.int 4)))).result
        = .ok (.scalar (.int 7)) :=
  ⟨rfl, Option.some_ne_none "7", rfl⟩

end Store

end Settings
