import Settings.Proofs.Store.Warnings

/-!
# What a read finds

A read of a key finds the value of the key itself, or else the value of its old key, and
looks no further.  A change of one key is therefore seen under that key and under the keys
without a value that it is the old key of, and nowhere else, whatever rows the table of
alternatives has: several keys may have one old key, and old keys may go round in circles.

## Main definitions

* `Tables.oldKey?` — the old key of a current key.
* `Store.own?` — the value that a store has under a key itself.
* `Store.Alters` — two stores differ in one key at most.

## Main results

* `Store.get_eq` — a read in terms of the values that the store has.
* `Store.Alters.get_of_ne`, `Store.Alters.get_self` — where a change of one key is seen.
* `Store.resolution_of_change` — **what every read finds after a call that changes a key.**
-/

namespace Settings

open History

/-- The old key of a current key. -/
def Tables.oldKey? (t : Tables) (key : String) : Option String :=
  (t.alternatives.find? key).map (·.key)

/-- The value that a change leaves under its key. -/
def Mutation.value? : Mutation → Option String
  | .write _ value => some value
  | .remove _ => none

namespace Store

/-- The value that a store has under a key itself. -/
def own? (s : Store) (key : String) : Option String := s.config.find? (.text key)

/-! ### The values of a store -/

/-- A read finds the value of the key itself, or else that of its old key. -/
theorem get_eq (s : Store) (key : String) :
    s.get key = (s.own? key).or ((s.tables.oldKey? key).bind s.own?) := by
  unfold get Tables.oldKey? own? Index.alternativeFor
  cases s.config.find? (.text key) with
  | some value => rfl
  | none => cases s.tables.alternatives.find? key <;> rfl

theorem lookup_textPairs (key : String) (ps : List (StoredKey × String)) :
    (ps.filterMap textPair?).lookup key = ps.lookup (.text key) := by
  induction ps with
  | nil => rfl
  | cons p ps ih =>
    obtain ⟨k, value⟩ := p
    by_cases hk : k = .text key
    · subst hk
      simp [textPair?]
    · rw [lookup_cons_ite, if_neg (Ne.symm hk), ← ih, List.filterMap_cons]
      cases k with
      | text k =>
        have hne : key ≠ k := fun h => hk (congrArg StoredKey.text h.symm)
        simp [textPair?, lookup_cons_ite, hne]
      | _ => rfl

theorem own?_eq_lookup (s : Store) (key : String) : s.own? key = s.textPairs.lookup key :=
  (lookup_textPairs key s.toList).symm

/-! ### A change of one key -/

/-- The second store goes by the tables of the first and holds the same under every key but
one, where it has the given value or none. -/
structure Alters (s s' : Store) (key : String) (value? : Option String) : Prop where
  /-- The tables stay the same. -/
  tables : s'.tables = s.tables
  /-- Other keys keep their values. -/
  own : ∀ k, s'.own? k = if k = key then value? else s.own? k

section Alters

variable {s s' : Store} {key : String} {value? : Option String}

/-- A change of a key is seen under another one that has no value, if that is the one whose
old key it is, and under no other key. -/
theorem Alters.get_of_ne (h : Alters s s' key value?) {k : String} (hk : k ≠ key) :
    s'.get k = if s.own? k = none ∧ s.tables.oldKey? k = some key then value? else s.get k := by
  rw [get_eq, get_eq, h.tables, h.own k, if_neg hk]
  cases s.own? k with
  | some value => simp
  | none =>
    cases s.tables.oldKey? k with
    | none => simp
    | some old => simp [h.own]

/-- Under the key itself its value is seen, or else that of its old key. -/
theorem Alters.get_self (h : Alters s s' key value?) :
    s'.get key
      = value?.or ((s.tables.oldKey? key).bind fun old =>
          if old = key then value? else s.own? old) := by
  rw [get_eq, h.tables, h.own key, if_pos rfl]
  cases s.tables.oldKey? key with
  | none => rfl
  | some old => simp [h.own]

end Alters

/-- A call that changes one key alters the store in that key. -/
theorem alters_of_mutations {s : Store} {t : Tables} {past : History} (hs : s.Follows t)
    (hp : s.textPairs = replay past) {r : Request} {m : Mutation}
    (hm : r.mutations past = [m]) : Alters s (s.perform r).store m.key m.value? where
  tables := (hs.store_perform (contains_eq_present hp) r).tables.trans hs.tables.symm
  own := by
    intro k
    have hpairs : (s.perform r).store.textPairs = m.apply s.textPairs := by
      rw [textPairs_perform (contains_eq_present hp) r, hm, List.foldl_cons, List.foldl_nil]
    rw [own?_eq_lookup, own?_eq_lookup, hpairs]
    cases m with
    | write key value => exact lookup_insertPair key k value s.textPairs
    | remove key => exact lookup_filter_ne key k s.textPairs

/-- Writes of texts under names are writes of pairs one after the other. -/
theorem run_set_text (s : Store) (ps : List (String × String)) :
    s.run (ps.map fun p => .set (.name p.1) (.text p.2)) = s.writeAll ps := by
  induction ps generalizing s with
  | nil => rfl
  | cons p ps ih =>
    have hstep : s.perform (.set (.name p.1) (.text p.2))
        = ⟨.ok .done, (s.write p.1 p.2).1, (s.write p.1 p.2).2⟩ := rfl
    rw [List.map_cons, run, hstep]
    dsimp only
    rw [ih]
    rfl

/-! ### After any call -/

/-- **What every read finds after a call that changes a key.**  A read finds the value of a
key, be it empty, or else that of its old key and of no other key.  After a write it finds
the value that is written under the key and under the keys without a value whose old key it
is; after a removal nothing is left to find there but, under the key, the value of its old
key.  All other keys read as before.  A copy of another store is so many writes. -/
theorem resolution_of_change (t : Tables) (seed : Option (List (Value × Value)))
    (rs : List Request) (r : Request) (key : String) :
    let s := reached t seed rs
    let s' := (s.perform r).store
    (∀ k, s.get k = (s.own? k).or ((t.oldKey? k).bind s.own?)) ∧
      (∀ k, s.own? k = some "" → s.get k = some "") ∧
      (∀ value, r.mutations (history seed rs) = [.write key value] → ∀ k,
        s'.get k = if k = key ∨ (s.own? k = none ∧ t.oldKey? k = some key) then some value
          else s.get k) ∧
      (r.mutations (history seed rs) = [.remove key] →
        s'.get key = ((t.oldKey? key).bind fun old => if old = key then none else s.own? old) ∧
        ∀ k, k ≠ key →
          s'.get k = if s.own? k = none ∧ t.oldKey? k = some key then none else s.get k) ∧
      ∀ ps, (s.perform (.setAll ps)).store
        = (s.run ((copied ps).map fun p => .set (.name p.1) (.text p.2))).1 := by
  intro s s'
  have hs : s.Follows t := follows_reached t seed rs
  have hp : s.textPairs = replay (history seed rs) := textPairs_reached t seed rs
  have hget : ∀ k, s.get k = (s.own? k).or ((t.oldKey? k).bind s.own?) := by
    intro k
    rw [get_eq, hs.tables]
  refine ⟨hget, ?_, ?_, ?_, ?_⟩
  · intro k hk
    rw [hget, hk, Option.some_or]
  · intro value hm k
    have h := alters_of_mutations hs hp hm
    by_cases hk : k = key
    · rw [if_pos (Or.inl hk), hk]
      exact h.get_self
    · have hne := h.get_of_ne hk
      rw [hs.tables] at hne
      rw [hne]
      simp only [hk, false_or]
      rfl
  · intro hm
    have h := alters_of_mutations hs hp hm
    refine ⟨?_, fun k hk => ?_⟩
    · have hself := h.get_self
      rw [hs.tables] at hself
      exact hself
    · have hne := h.get_of_ne hk
      rw [hs.tables] at hne
      exact hne
  · intro ps
    obtain ⟨result, hall, -⟩ := setAll_eq s ps
    rw [run_set_text]
    exact congrArg Outcome.store hall

/-- Of two keys that are each the old key of the other, a write of one is seen under both, and
after its removal the empty text of the other is seen under both. -/
theorem resolution_of_circle :
    let t : Tables := ⟨.ofList [("a", ⟨"b", "1", ""⟩), ("b", ⟨"a", "1", ""⟩)], .empty⟩
    let write := Request.set (.name "b") (.text "1")
    let remove := Request.remove (.name "b")
    let seed := some [(.text "b", .text "1"), (.text "a", .text "")]
    (write.mutations (history none []) = [.write "b" "1"] ∧
        ((reached t none []).perform write).store.get "a" = some "1") ∧
      remove.mutations (history seed []) = [.remove "b"] ∧
        ((reached t seed []).perform remove).store.get "b" = some "" ∧
        ((reached t seed []).perform remove).store.get "a" = some "" := by
  intro t write remove seed
  obtain ⟨-, -, hwrite, -⟩ := resolution_of_change t none [] write "b"
  obtain ⟨-, -, -, hremove, -⟩ := resolution_of_change t seed [] remove "b"
  obtain ⟨hself, hother⟩ := hremove rfl
  refine ⟨⟨rfl, ?_⟩, rfl, hself, ?_⟩
  · exact (hwrite "1" rfl "a").trans (if_pos (Or.inr ⟨rfl, rfl⟩))
  · -- the key of the empty text has a value, so that its old key is not asked
    exact (hother "a" (by decide)).trans (if_neg fun h => nomatch h.1)

end Store

end Settings
