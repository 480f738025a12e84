/-!
# Maps that keep the order of insertion

A map that lists its pairs in the order in which their keys came in.  Giving a key a new
value keeps its place; a key that is removed and comes back goes to the end.  That no key
occurs twice is part of the type.

## Main definitions

* `OrderedMap` — the maps; `OrderedMap.toList` is the view that every operation is
  described by.
* `find?`, `insert`, `erase`, `ofList` — look-up, writing, removal, writing of pairs
  one after the other.
* `OrderedMap.somes` — the pairs that have a value.
-/

namespace Settings

section Pairs

/-! ### Lists of pairs -/

variable {κ α : Type} [DecidableEq κ]

/-- The pairs after a key has been given a value. -/
def insertPair (key : κ) (value : α) : List (κ × α) → List (κ × α)
  | [] => [(key, value)]
  | p :: ps => if p.1 = key then (key, value) :: ps else p :: insertPair key value ps

theorem keys_insertPair (key : κ) (value : α) (ps : List (κ × α)) :
    (insertPair key value ps).map Prod.fst
      = if key ∈ ps.map Prod.fst then ps.map Prod.fst else ps.map Prod.fst ++ [key] := by
  induction ps with
  | nil => simp [insertPair]
  | cons p ps ih =>
    by_cases h : p.1 = key
    · simp [insertPair, h]
    · simp only [insertPair, if_neg h, List.map_cons, ih, List.mem_cons, Ne.symm h, false_or]
      split <;> simp

theorem nodup_insertPair (key : κ) (value : α) {ps : List (κ × α)}
    (h : (ps.map Prod.fst).Nodup) : ((insertPair key value ps).map Prod.fst).Nodup := by
  rw [keys_insertPair]
  split
  · exact h
  · next hk =>
    refine List.nodup_append.2 ⟨h, by simp, ?_⟩
    rintro a ha b hb rfl
    rw [List.mem_singleton.1 hb] at ha
    exact hk ha

theorem insertPair_of_not_mem {key : κ} (value : α) {ps : List (κ × α)}
    (h : key ∉ ps.map Prod.fst) : insertPair key value ps = ps ++ [(key, value)] := by
  induction ps with
  | nil => rfl
  | cons p ps ih =>
    rw [List.map_cons, List.mem_cons, not_or] at h
    rw [insertPair, if_neg (Ne.symm h.1), ih h.2, List.cons_append]

theorem mem_of_mem_insertPair {key : κ} {value : α} {ps : List (κ × α)} {p : κ × α}
    (hp : p ∈ insertPair key value ps) : p = (key, value) ∨ p ∈ ps := by
  induction ps with
  | nil => exact Or.inl (List.mem_singleton.1 hp)
  | cons q ps ih =>
    by_cases hq : q.1 = key
    · rw [insertPair, if_pos hq, List.mem_cons] at hp
      exact hp.imp_right (List.mem_cons_of_mem q)
    · rw [insertPair, if_neg hq, List.mem_cons] at hp
      rcases hp with rfl | hp
      · exact Or.inr List.mem_cons_self
      · exact (ih hp).imp_right (List.mem_cons_of_mem q)

theorem lookup_cons_ite (k : κ) (p : κ × α) (ps : List (κ × α)) :
    (p :: ps).lookup k = if k = p.1 then some p.2 else ps.lookup k := by
  rw [List.lookup_cons]
  by_cases h : k = p.1
  · rw [if_pos h, beq_iff_eq.2 h]
  · rw [if_neg h, beq_eq_false_iff_ne.2 h]

theorem lookup_insertPair (key k : κ) (value : α) (ps : List (κ × α)) :
    (insertPair key value ps).lookup k = if k = key then some value else ps.lookup k := by
  induction ps with
  | nil => rw [insertPair, lookup_cons_ite]
  | cons p ps ih =>
    by_cases hp : p.1 = key
    · rw [insertPair, if_pos hp, lookup_cons_ite, lookup_cons_ite, hp]
      by_cases hk : k = key <;> simp [hk]
    · rw [insertPair, if_neg hp, lookup_cons_ite, lookup_cons_ite, ih]
      by_cases hk : k = key
      · simp [hk, Ne.symm hp]
      · simp [hk]

theorem lookup_filter_ne (key k : κ) (ps : List (κ × α)) :
    (ps.filter (·.1 != key)).lookup k = if k = key then none else ps.lookup k := by
  induction ps with
  | nil => simp
  | cons p ps ih =>
    by_cases hp : p.1 = key
    · rw [List.filter_cons_of_neg (by simp [hp]), ih, lookup_cons_ite, hp]
      by_cases hk : k = key <;> simp [hk]
    · rw [List.filter_cons_of_pos (by simp [hp]), lookup_cons_ite, lookup_cons_ite, ih]
      by_cases hk : k = key
      · simp [hk, Ne.symm hp]
      · simp [hk]

/-- Where no key occurs twice, looking a key up finds the pair with that key. -/
theorem lookup_eq_some_iff {ps : List (κ × α)} (h : (ps.map Prod.fst).Nodup) (k : κ) (v : α) :
    ps.lookup k = some v ↔ (k, v) ∈ ps := by
  induction ps with
  | nil => simp
  | cons p ps ih =>
    rw [List.map_cons, List.nodup_cons] at h
    rw [lookup_cons_ite, List.mem_cons, ← ih h.2]
    by_cases hk : k = p.1
    · have hnone : ps.lookup k ≠ some v := by
        rw [Ne, ih h.2]
        intro hmem
        exact h.1 (List.mem_map.2 ⟨(k, v), hmem, hk⟩)
      rw [if_pos hk, Option.some.injEq, Prod.mk.injEq, or_iff_left hnone]
      exact ⟨fun h => ⟨hk, h.symm⟩, fun h => h.2.symm⟩
    · simp [hk, Prod.ext_iff]

theorem isSome_lookup_iff (ps : List (κ × α)) (k : κ) :
    (ps.lookup k).isSome = true ↔ k ∈ ps.map Prod.fst := by
  induction ps with
  | nil => simp
  | cons p ps ih =>
    rw [lookup_cons_ite, List.map_cons, List.mem_cons, ← ih]
    by_cases hk : k = p.1 <;> simp [hk]

end Pairs

/-! ### The maps -/

/-- A map in order of insertion. -/
structure OrderedMap (κ α : Type) where
  /-- The pairs in order. -/
  toList : List (κ × α)
  /-- No key occurs twice. -/
  nodup : (toList.map Prod.fst).Nodup

namespace OrderedMap

variable {κ α : Type}

@[ext] theorem ext {m n : OrderedMap κ α} (h : m.toList = n.toList) : m = n := by
  cases m; cases n; cases h; rfl

/-- The map without pairs. -/
def empty : OrderedMap κ α := ⟨[], by simp⟩

instance : Inhabited (OrderedMap κ α) := ⟨empty⟩

/-- The keys in order. -/
def keys (m : OrderedMap κ α) : List κ := m.toList.map Prod.fst

/-- The number of pairs. -/
def size (m : OrderedMap κ α) : Nat := m.toList.length

/-- The pairs of a map that have a value. -/
def somes (m : OrderedMap κ (Option α)) : OrderedMap κ α :=
  ⟨m.toList.filterMap fun p => p.2.map (p.1, ·), by
    refine m.nodup.sublist ?_
    induction m.toList with
    | nil => simp
    | cons p ps ih =>
      obtain ⟨key, value⟩ := p
      cases value with
      | none => simpa using ih.cons _
      | some v => simpa using ih⟩

@[simp] theorem toList_empty : (empty : OrderedMap κ α).toList = [] := rfl

/-! ### Look-up and changes -/

variable [DecidableEq κ]

/-- The value of a key. -/
def find? (m : OrderedMap κ α) (key : κ) : Option α := m.toList.lookup key

/-- The key has a value. -/
def contains (m : OrderedMap κ α) (key : κ) : Bool := (m.find? key).isSome

/-- The map after a key has been given a value. -/
def insert (m : OrderedMap κ α) (key : κ) (value : α) : OrderedMap κ α :=
  ⟨insertPair key value m.toList, nodup_insertPair key value m.nodup⟩

/-- The map after a key has been removed. -/
def erase (m : OrderedMap κ α) (key : κ) : OrderedMap κ α :=
  ⟨m.toList.filter (·.1 != key), m.nodup.sublist (List.filter_sublist.map _)⟩

/-- The map after pairs have been written one after the other. -/
def insertAll (m : OrderedMap κ α) (ps : List (κ × α)) : OrderedMap κ α :=
  ps.foldl (fun m p => m.insert p.1 p.2) m

/-- The map of a list of pairs: the last value of a key counts, at the place of the first. -/
def ofList (ps : List (κ × α)) : OrderedMap κ α := empty.insertAll ps

@[simp] theorem toList_insert (m : OrderedMap κ α) (key : κ) (value : α) :
    (m.insert key value).toList = insertPair key value m.toList := rfl

@[simp] theorem toList_erase (m : OrderedMap κ α) (key : κ) :
    (m.erase key).toList = m.toList.filter (·.1 != key) := rfl

@[simp] theorem find?_empty (k : κ) : (empty : OrderedMap κ α).find? k = none := rfl

@[simp] theorem find?_insert (m : OrderedMap κ α) (key k : κ) (value : α) :
    (m.insert key value).find? k = if k = key then some value else m.find? k :=
  lookup_insertPair key k value m.toList

@[simp] theorem find?_erase (m : OrderedMap κ α) (key k : κ) :
    (m.erase key).find? k = if k = key then none else m.find? k :=
  lookup_filter_ne key k m.toList

theorem find?_eq_some_iff (m : OrderedMap κ α) (k : κ) (v : α) :
    m.find? k = some v ↔ (k, v) ∈ m.toList := lookup_eq_some_iff m.nodup k v

theorem contains_iff (m : OrderedMap κ α) (k : κ) : m.contains k = true ↔ k ∈ m.keys :=
  isSome_lookup_iff m.toList k

@[simp] theorem insertAll_nil (m : OrderedMap κ α) : m.insertAll [] = m := rfl

@[simp] theorem insertAll_cons (m : OrderedMap κ α) (p : κ × α) (ps : List (κ × α)) :
    m.insertAll (p :: ps) = (m.insert p.1 p.2).insertAll ps := rfl

/-- Pairs whose keys are new are put at the end as they are. -/
theorem toList_insertAll (m : OrderedMap κ α) {ps : List (κ × α)}
    (h : ((m.toList ++ ps).map Prod.fst).Nodup) : (m.insertAll ps).toList = m.toList ++ ps := by
  induction ps generalizing m with
  | nil => simp
  | cons p ps ih =>
    have hp : p.1 ∉ m.toList.map Prod.fst := by
      rw [List.map_append, List.map_cons, List.nodup_append] at h
      intro hmem
      exact h.2.2 _ hmem _ List.mem_cons_self rfl
    have hinsert : (m.insert p.1 p.2).toList = m.toList ++ [p] := insertPair_of_not_mem p.2 hp
    rw [insertAll_cons, ih, hinsert, List.append_assoc, List.singleton_append]
    rw [hinsert, List.append_assoc, List.singleton_append]
    exact h

/-- The map of the pairs of a map is that map. -/
@[simp] theorem ofList_toList (m : OrderedMap κ α) : ofList m.toList = m :=
  ext (toList_insertAll empty m.nodup)

/-- Of the pairs with one key that are written one after the other the last one counts. -/
theorem find?_insertAll (m : OrderedMap κ α) (ps : List (κ × α)) (k : κ) :
    (m.insertAll ps).find? k
      = (((ps.filter (·.1 == k)).getLast?).map Prod.snd).or (m.find? k) := by
  induction ps generalizing m with
  | nil => rfl
  | cons p ps ih =>
    rw [insertAll_cons, ih, find?_insert]
    by_cases hk : p.1 = k
    · rw [List.filter_cons_of_pos (by simpa using hk), List.getLast?_cons, if_pos hk.symm]
      cases (ps.filter (·.1 == k)).getLast? <;> rfl
    · rw [List.filter_cons_of_neg (by simpa using hk), if_neg (Ne.symm hk)]

/-- A map is known by its keys in order and their values. -/
theorem eq_of_keys {m n : OrderedMap κ α} (hkeys : m.keys = n.keys)
    (hfind : ∀ k, m.find? k = n.find? k) : m = n := by
  have hvalues : ∀ m : OrderedMap κ α,
      m.toList.map (fun p => (p.1, some p.2)) = m.keys.map fun k => (k, m.find? k) := by
    intro m
    rw [keys, List.map_map]
    refine List.map_congr_left fun p hp => ?_
    rw [Function.comp_apply, (m.find?_eq_some_iff p.1 p.2).2 hp]
  have hmaps : m.toList.map (fun p => (p.1, some p.2)) = n.toList.map fun p => (p.1, some p.2) := by
    rw [hvalues m, hvalues n, hkeys]
    exact List.map_congr_left fun k _ => by rw [hfind k]
  refine ext ((List.map_inj_right ?_).1 hmaps)
  intro p q hpq
  exact Prod.ext (Prod.mk.inj hpq).1 (Option.some.inj (Prod.mk.inj hpq).2)

theorem keys_insertAll_of_subset {m : OrderedMap κ α} {ps : List (κ × α)}
    (h : ∀ p ∈ ps, p.1 ∈ m.keys) : (m.insertAll ps).keys = m.keys := by
  induction ps generalizing m with
  | nil => rfl
  | cons p ps ih =>
    have hinsert : (m.insert p.1 p.2).keys = m.keys := by
      have hkeys := keys_insertPair p.1 p.2 m.toList
      exact hkeys.trans (if_pos (h p List.mem_cons_self))
    rw [insertAll_cons, ih, hinsert]
    intro q hq
    rw [hinsert]
    exact h q (List.mem_cons_of_mem p hq)

/-- Writing pairs changes nothing if the map has the last value of every key already. -/
theorem insertAll_eq_self_iff (m : OrderedMap κ α) (ps : List (κ × α)) :
    m.insertAll ps = m ↔
      ∀ p, (ps.filter (·.1 == p.1)).getLast? = some p → m.find? p.1 = some p.2 := by
  constructor
  · intro h p hp
    have hfind := find?_insertAll m ps p.1
    rw [h, hp] at hfind
    exact hfind
  · intro h
    have hfind : ∀ k, (m.insertAll ps).find? k = m.find? k := by
      intro k
      rw [find?_insertAll]
      cases hlast : (ps.filter (·.1 == k)).getLast? with
      | none => rfl
      | some p =>
        obtain rfl : p.1 = k := by
          simpa using (List.mem_filter.1 (List.mem_of_getLast? hlast)).2
        exact (h p hlast).symm
    refine eq_of_keys (keys_insertAll_of_subset fun p hp => ?_) hfind
    rw [← contains_iff, contains, ← hfind p.1, find?_insertAll]
    have hmem : p ∈ ps.filter (·.1 == p.1) := List.mem_filter.2 ⟨hp, beq_self_eq_true p.1⟩
    cases hlast : (ps.filter (·.1 == p.1)).getLast? with
    | none => rw [List.getLast?_eq_none_iff.1 hlast] at hmem; exact absurd hmem List.not_mem_nil
    | some q => rfl

end OrderedMap

end Settings
