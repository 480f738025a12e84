import Mathlib.Data.List.Induction
import Mathlib.Data.List.Nodup
import Settings.OrderedMap

/-!
# Maps made of pairs, and maps put together

The map of a list of pairs has the keys of the list in the order in which they occur first.  To
write a map into another one gives the keys that both have the values of the second, in their
places, and puts the other pairs of the second behind.  So what is written later counts, and
what is there earlier goes first; both are associative, and so is the whole.

## Main definitions

* `OrderedMap.update` — a map with the pairs of another one written into it.

## Main results

* `OrderedMap.keys_ofList`, `pairwise_idxOf_eraseDups` — the keys of a list of pairs.
* `OrderedMap.find?_update`, `OrderedMap.keys_update` — values and keys of two maps together.
* `OrderedMap.toList_update` — so all the pairs, in order.
* `OrderedMap.update_assoc` — **it does not matter which two of three maps are put together
  first.**
* `OrderedMap.update_update_left_iff` — when a map that is written again wins nothing back.
-/

namespace Settings

/-- The keys that are left of a list stand in the order in which they occur first. -/
theorem pairwise_idxOf_eraseDups {κ : Type} [DecidableEq κ] (keys : List κ) :
    keys.eraseDups.Pairwise fun a b => keys.idxOf a < keys.idxOf b := by
  induction keys using List.reverseRecOn with
  | nil => exact List.Pairwise.nil
  | append_singleton keys key ih =>
    have hkept : keys.eraseDups.Pairwise
        fun a b => (keys ++ [key]).idxOf a < (keys ++ [key]).idxOf b := by
      refine ih.imp_of_mem fun {a b} ha hb hab => ?_
      rw [List.idxOf_append_of_mem (List.mem_eraseDups.1 ha),
        List.idxOf_append_of_mem (List.mem_eraseDups.1 hb)]
      exact hab
    rw [List.eraseDups_append, List.removeAll]
    by_cases hmem : key ∈ keys
    · simpa [hmem] using hkept
    · -- a key that has not occurred comes after all that have
      have hsingle : [key].eraseDups = [key] := rfl
      simp only [List.filter_cons, List.elem_eq_mem, hmem, decide_false, Bool.not_false, if_true,
        List.filter_nil, hsingle]
      refine List.pairwise_append.2 ⟨hkept, List.pairwise_singleton _ _, fun a ha b hb => ?_⟩
      obtain rfl := List.mem_singleton.1 hb
      have ha' : a ∈ keys := List.mem_eraseDups.1 ha
      rw [List.idxOf_append_of_mem ha', List.idxOf_append_of_notMem hmem]
      exact Nat.lt_add_right _ (List.idxOf_lt_length_iff.2 ha')

namespace OrderedMap

variable {κ α : Type} [DecidableEq κ]

/-! ### Maps of pairs -/

/-- The pairs up to the last, and then the last. -/
theorem ofList_concat (ps : List (κ × α)) (p : κ × α) :
    ofList (ps ++ [p]) = (ofList ps).insert p.1 p.2 := by
  rw [ofList, ofList, insertAll, insertAll, List.foldl_append]
  rfl

/-- The keys of a map of pairs stand in the order in which they occur first. -/
theorem keys_ofList (ps : List (κ × α)) : (ofList ps).keys = (ps.map Prod.fst).eraseDups := by
  induction ps using List.reverseRecOn with
  | nil => rfl
  | append_singleton ps p ih =>
    -- a key that has occurred keeps its place, a new one goes to the end
    have hkeys : (ofList (ps ++ [p])).keys
        = if p.1 ∈ (ofList ps).keys then (ofList ps).keys else (ofList ps).keys ++ [p.1] := by
      rw [ofList_concat]
      exact keys_insertPair p.1 p.2 (ofList ps).toList
    rw [hkeys, ih, List.map_append, List.eraseDups_append, List.removeAll]
    by_cases hmem : p.1 ∈ ps.map Prod.fst
    · simp [hmem]
    · have hsingle : [p.1].eraseDups = [p.1] := rfl
      simp [hmem, hsingle]

/-- The pairs of a map are its keys with their values. -/
theorem toList_eq_filterMap (m : OrderedMap κ α) :
    m.toList = m.keys.filterMap fun k => (m.find? k).map (k, ·) := by
  rw [keys, List.filterMap_map]
  refine (List.filterMap_some.symm.trans (List.filterMap_congr fun p hp => ?_))
  rw [Function.comp_apply, (m.find?_eq_some_iff p.1 p.2).2 hp]
  rfl

/-- The pairs with a value, key by key. -/
theorem toList_somes (m : OrderedMap κ (Option α)) :
    m.somes.toList = m.keys.filterMap fun k => (m.find? k).join.map (k, ·) := by
  rw [keys, List.filterMap_map]
  refine List.filterMap_congr fun p hp => ?_
  rw [Function.comp_apply, (m.find?_eq_some_iff p.1 p.2).2 hp]
  rfl

/-! ### Two maps together -/

/-- A map with the pairs of another one written into it. -/
def update (m n : OrderedMap κ α) : OrderedMap κ α := m.insertAll n.toList

/-- The value in the second map counts, if there is one. -/
@[simp] theorem find?_update (m n : OrderedMap κ α) (k : κ) :
    (m.update n).find? k = (n.find? k).or (m.find? k) := by
  have hlast : ((n.toList.filter (·.1 == k)).getLast?).map Prod.snd = n.find? k := by
    have hofList := find?_insertAll (empty : OrderedMap κ α) n.toList k
    rw [find?_empty, Option.or_none] at hofList
    rw [← hofList]
    exact congrArg (·.find? k) (ofList_toList n)
  rw [update, find?_insertAll, hlast]

theorem keys_insertAll {m : OrderedMap κ α} {ps : List (κ × α)} (h : (ps.map Prod.fst).Nodup) :
    (m.insertAll ps).keys = m.keys ++ (ps.map Prod.fst).filter (· ∉ m.keys) := by
  induction ps generalizing m with
  | nil => simp
  | cons p ps ih =>
    rw [List.map_cons, List.nodup_cons] at h
    have hinsert : (m.insert p.1 p.2).keys = if p.1 ∈ m.keys then m.keys else m.keys ++ [p.1] :=
      keys_insertPair p.1 p.2 m.toList
    rw [insertAll_cons, ih h.2, List.map_cons, hinsert]
    by_cases hmem : p.1 ∈ m.keys
    · rw [if_pos hmem, List.filter_cons_of_neg (by simpa using hmem)]
    · -- none of the keys to come is the one that has just been put at the end
      have hrest : (ps.map Prod.fst).filter (· ∉ m.keys ++ [p.1])
          = (ps.map Prod.fst).filter (· ∉ m.keys) := by
        refine List.filter_congr fun k hk => ?_
        have hne : k ≠ p.1 := fun heq => h.1 (heq ▸ hk)
        simp [hne]
      rw [if_neg hmem, List.filter_cons_of_pos (by simpa using hmem), hrest, List.append_assoc,
        List.singleton_append]

/-- The keys of the first map come first, then those that only the second has. -/
theorem keys_update (m n : OrderedMap κ α) :
    (m.update n).keys = m.keys ++ n.keys.filter (· ∉ m.keys) := keys_insertAll n.nodup

/-- **The pairs of two maps together**: those of the first with the values that the second has
for their keys, then those of the second whose keys are new. -/
theorem toList_update (m n : OrderedMap κ α) :
    (m.update n).toList = (m.toList.map fun p => (p.1, (n.find? p.1).getD p.2))
      ++ n.toList.filter (·.1 ∉ m.keys) := by
  rw [toList_eq_filterMap, keys_update, List.filterMap_append]
  congr 1
  · rw [keys, List.filterMap_map, ← List.filterMap_eq_map]
    refine List.filterMap_congr fun p hp => ?_
    simp only [Function.comp_apply, find?_update, (m.find?_eq_some_iff p.1 p.2).2 hp]
    cases n.find? p.1 <;> rfl
  · have hkeys : n.keys.filter (· ∉ m.keys) = (n.toList.filter (·.1 ∉ m.keys)).map Prod.fst :=
      List.filter_map
    rw [hkeys, List.filterMap_map]
    refine (List.filterMap_congr fun p hp => ?_).trans List.filterMap_some
    have hfind := (n.find?_eq_some_iff p.1 p.2).2 (List.mem_of_mem_filter hp)
    simp only [Function.comp_apply, find?_update, hfind, Option.some_or, Option.map_some]

theorem update_self (m : OrderedMap κ α) : m.update m = m := by
  refine eq_of_keys ?_ fun k => ?_
  · rw [keys_update]
    simp
  · rw [find?_update, Option.or_self]

/-- **It does not matter which two of three maps are put together first.** -/
theorem update_assoc (l m n : OrderedMap κ α) :
    (l.update m).update n = l.update (m.update n) := by
  refine eq_of_keys ?_ fun k => ?_
  · -- of the third map those keys are new that neither of the first two has
    have hnew : n.keys.filter (· ∉ l.keys ++ m.keys.filter (· ∉ l.keys))
        = (n.keys.filter (· ∉ m.keys)).filter (· ∉ l.keys) := by
      rw [List.filter_filter]
      refine List.filter_congr fun k _ => ?_
      by_cases hl : k ∈ l.keys <;> simp [hl]
    rw [keys_update, keys_update, keys_update, keys_update, List.filter_append, hnew,
      List.append_assoc]
  · rw [find?_update, find?_update, find?_update, find?_update, Option.or_assoc]

/-- To write the same map once more changes nothing. -/
theorem update_update_self (m n : OrderedMap κ α) : (m.update n).update n = m.update n := by
  rw [update_assoc, update_self]

/-- To write a map over what has been written into it changes nothing just if the two have no key
with different values. -/
theorem update_update_left_iff (m n : OrderedMap κ α) :
    (m.update n).update m = m.update n ↔
      ∀ p ∈ m.toList, ∀ q ∈ n.toList, p.1 = q.1 → p.2 = q.2 := by
  constructor
  · intro h p hp q hq hkey
    have hm := (m.find?_eq_some_iff p.1 p.2).2 hp
    have hn := (n.find?_eq_some_iff q.1 q.2).2 hq
    rw [← hkey] at hn
    -- the map that is written last has its own value, the other one that of the second map
    have hfind := congrArg (·.find? p.1) h
    simp only [find?_update, hm, hn, Option.some_or] at hfind
    exact Option.some.inj hfind
  · intro h
    refine eq_of_keys ?_ fun k => ?_
    · have hold : m.keys.filter (· ∉ (m.update n).keys) = [] := by
        refine List.filter_eq_nil_iff.2 fun k hk => ?_
        have hmem : k ∈ (m.update n).keys := by
          rw [keys_update]
          exact List.mem_append_left _ hk
        simpa using hmem
      rw [keys_update (m.update n) m, hold, List.append_nil]
    · rw [find?_update, find?_update]
      cases hm : m.find? k with
      | none => rw [Option.none_or]
      | some v =>
        cases hn : n.find? k with
        | none => rw [Option.some_or, Option.none_or]
        | some w =>
          have hv := (m.find?_eq_some_iff k v).1 hm
          have hw := (n.find?_eq_some_iff k w).1 hn
          obtain rfl : v = w := h (k, v) hv (k, w) hw rfl
          rw [Option.some_or, Option.some_or]

end OrderedMap

end Settings
