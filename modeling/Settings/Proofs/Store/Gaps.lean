import Settings.Proofs.Store.Migration
import Settings.Proofs.Store.RoundTrip

/-!
# Filling keys that are missing

A value may be written under a key on the condition that the key has none.  The condition is
about the key itself: a value that is read through the old key does not count, so that the key is
filled all the same and the value of the old key is no longer seen under it.  What is read under
other keys is kept if there is anything to read; a key that read nothing may get the new value
through its old key.

## Main results

* `Store.store_setIfMissing` — a key with a value of its own keeps the store as it is.
* `Store.alters_setIfMissing` — any other key is given the value.
* `Store.reads_after_setIfMissing` — **what is read after a missing key has been filled.**
-/

namespace Settings

open History

namespace Store

section Fill

variable {s : Store} {key : String}

theorem contains_eq_isSome (s : Store) (key : String) :
    s.contains key = (s.own? key).isSome := rfl

/-- A key with a value of its own keeps the store as it is. -/
theorem store_setIfMissing {old : String} (h : s.own? key = some old) (value : String) :
    s.perform (.setIfMissing (.name key) (.text value)) = ⟨.ok .done, s, []⟩ := by
  have hcontains : s.contains key = true := by rw [contains_eq_isSome, h, Option.isSome_some]
  change ofChange (s.setIfMissing key (.text value)) = _
  rw [setIfMissing_of_contains hcontains]
  rfl

/-- A key without a value of its own is given the value, and no other key is changed. -/
theorem alters_setIfMissing {t : Tables} {past : History} (hs : s.Follows t)
    (hp : s.textPairs = replay past) (h : s.own? key = none) (value : String) :
    Alters s (s.perform (.setIfMissing (.name key) (.text value))).store key (some value) := by
  have hpresent : present past key = false := by
    rw [← contains_eq_present hp, contains_eq_isSome, h, Option.isSome_none]
  refine alters_of_mutations hs hp (m := .write key value) ?_
  rw [Request.mutations, hpresent]
  rfl

theorem result_setIfMissing (s : Store) (key value : String) :
    (s.perform (.setIfMissing (.name key) (.text value))).result = .ok .done := by
  change (ofChange (s.setIfMissing key (.text value))).result = _
  cases hc : s.contains key with
  | true => rw [setIfMissing_of_contains hc]; rfl
  | false => rw [setIfMissing_of_not_contains hc]; rfl

/-- A key that reads nothing has no value of its own. -/
theorem own?_of_get_eq_none (h : s.get key = none) : s.own? key = none := by
  rw [get_eq, Option.or_eq_none_iff] at h
  exact h.1

/-- Where a change gives a key a value, a key that reads something already reads the same, unless
it is the one that is changed. -/
theorem Alters.get_kept {s' : Store} {value : String} (h : Alters s s' key (some value))
    (hown : s.own? key = none) {k : String} (hk : k ≠ key) (hget : s.get k ≠ none) :
    s'.get k = s.get k := by
  rw [h.get_of_ne hk, if_neg]
  rintro ⟨hnone, hold⟩
  -- the key would have read the value of the changed key, which had none
  rw [get_eq, hnone, hold, Option.none_or, Option.bind_some, hown] at hget
  exact hget rfl

end Fill

/-- **What is read after a missing key has been filled.**  A key with a value of its own is read
as before.  A key without one reads the new value from now on, whether it read nothing or the
value of its old key, and its entries read as if the value had been written.  So a value that was
read is read again if it is the key's own or the new one, and only then.  What was read under
other keys is kept. -/
theorem reads_after_setIfMissing (t : Tables) (seed : Option (List (Value × Value)))
    (rs : List Request) (key value : String) :
    let s := reached t seed rs
    let o := s.perform (.setIfMissing (.name key) (.text value))
    o.result = .ok .done ∧
      (s.own? key ≠ none → o.store.get key = s.get key ∧ ∀ e : Entry, e.key = key →
        ∀ a, (o.store.perform (.read a e)).result = (s.perform (.read a e)).result) ∧
      (s.own? key = none → o.store.get key = some value ∧ ∀ e : Entry, e.key = key →
        ∀ a, (o.store.perform (.read a e)).result
          = ((s.write key value).1.perform (.read a e)).result) ∧
      (s.get key = none → o.store.get key = some value) ∧
      (∀ old, s.get key = some old →
        (o.store.get key = some old ↔ s.own? key = some old ∨ value = old)) ∧
      ∀ k, k ≠ key → s.get k ≠ none → o.store.get k = s.get k := by
  intro s o
  have hs : s.Follows t := follows_reached t seed rs
  have hp : s.textPairs = replay (history seed rs) := textPairs_reached t seed rs
  have hkept : s.own? key ≠ none → o.store = s := by
    intro hown
    obtain ⟨old, hold⟩ := Option.ne_none_iff_exists'.1 hown
    exact congrArg Outcome.store (store_setIfMissing hold value)
  have hfilled : s.own? key = none → o.store.get key = some value := fun hown =>
    (alters_setIfMissing hs hp hown value).get_self
  refine ⟨result_setIfMissing s key value, ?_, ?_, ?_, ?_, ?_⟩
  · intro hown
    rw [hkept hown]
    exact ⟨rfl, fun _ _ _ => rfl⟩
  · intro hown
    refine ⟨hfilled hown, ?_⟩
    rintro e rfl
    exact result_read_congr ((hfilled hown).trans (get_write s e.key value).symm)
  · exact fun hget => hfilled (own?_of_get_eq_none hget)
  · intro old hget
    by_cases hown : s.own? key = none
    · rw [hfilled hown, hown]
      simp
    · -- the value that was read is the key's own
      obtain ⟨own, hvalue⟩ := Option.ne_none_iff_exists'.1 hown
      rw [hkept hown, hget]
      rw [get_eq, hvalue, Option.some_or] at hget
      simp [hvalue, hget]
  · intro k hk hget
    by_cases hown : s.own? key = none
    · exact (alters_setIfMissing hs hp hown value).get_kept hown hk hget
    · rw [hkept hown]

/-- A key with an empty text keeps it, a missing key is filled, and the keys of their entries
are read accordingly. -/
theorem reads_after_setIfMissing_of_empty_text :
    let t : Tables := ⟨.ofList [("new", ⟨"old", "1", ""⟩)], .empty⟩
    let s := reached t (some [(.text "new", .text ""), (.text "old", .text "7")]) []
    (s.own? "new" ≠ none ∧
        (s.perform (.setIfMissing (.name "new") (.text "9"))).store.get "new" = some "") ∧
      s.get "k" = none ∧
        (s.perform (.setIfMissing (.name "k") (.text "9"))).store.get "k" = some "9" ∧
      s.get "old" ≠ none ∧
        (s.perform (.setIfMissing (.name "k") (.text "9"))).store.get "old" = some "7" := by
  intro t s
  obtain ⟨-, hkept, -⟩ := reads_after_setIfMissing t
    (some [(.text "new", .text ""), (.text "old", .text "7")]) [] "new" "9"
  obtain ⟨-, -, -, hfilled, -, hothers⟩ := reads_after_setIfMissing t
    (some [(.text "new", .text ""), (.text "old", .text "7")]) [] "k" "9"
  have hown : s.own? "new" ≠ none := Option.some_ne_none ""
  have hold : s.get "old" ≠ none := Option.some_ne_none "7"
  exact ⟨⟨hown, (hkept hown).1⟩, rfl, hfilled rfl, hold, hothers "old" (by decide) hold⟩

/-- A value that is read through the old key is not kept: the key is filled, and the accessors
of its entries read the new value. -/
theorem old_value_overridden :
    let t : Tables := ⟨.ofList [("new", ⟨"old", "1", ""⟩)], .empty⟩
    let s := reached t (some [(.text "old", .text "7")]) []
    let s' := (s.perform (.setIfMissing (.name "new") (.text "9"))).store
    s.get "new" = some "7" ∧ s'.get "new" = some "9" ∧
      (s.perform (.read (.integer .int32) (.declared "new" (.int 4)))).result
        = .ok (.scalar (.int 7)) ∧
      (s'.perform (.read (.integer .int32) (.declared "new" (.int 4)))).result
        = .ok (.scalar (.int 9)) :=
  ⟨rfl, rfl, rfl, rfl⟩

end Store

end Settings
