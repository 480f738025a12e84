import Mathlib.Data.List.Induction
import Mathlib.Data.List.Nodup
import Settings.OrderedMap

/-!
# Histories of pairs

A history lists changes of keys, the earliest first.  It fixes the pairs that are left
after it: a key is there if its last change is a write, with the value of that write, and
the keys stand in the order of their earliest writes since their last removals.  `Leaves`
says so by positions in the history alone; `replay` computes the same pairs change by
change, as a map in order of insertion does.

## Main definitions

* `Mutation`, `History` — the changes, and lists of them.
* `last?` — the last change of a key.
* `BeginsAt` — the earliest write of a key since its last removal stands at a position.
* `Leaves` — the pairs that a history leaves.
* `replay` — the pairs after the changes, one by one.

## Main results

* `leaves_replay` — the replay of a history is what the history leaves.
* `Leaves.unique` — a history leaves one list of pairs only.
-/

namespace Settings

/-- A change of a key. -/
inductive Mutation where
  /-- The key is given a value. -/
  | write (key value : String)
  /-- The key is removed. -/
  | remove (key : String)
  deriving DecidableEq, Repr, Inhabited

/-- The key that is changed. -/
def Mutation.key : Mutation → String
  | .write key _ => key
  | .remove key => key

/-- The key that is written, if the change is a write. -/
def Mutation.written? : Mutation → Option String
  | .write key _ => some key
  | .remove _ => none

/-- Changes in order, the earliest first. -/
abbrev History := List Mutation

namespace History

/-! ### What a history says of a key -/

/-- The last change of a key. -/
def last? (h : History) (key : String) : Option Mutation := h.reverse.find? (·.key == key)

/-- The last change of the key is a write. -/
def present (h : History) (key : String) : Bool :=
  match last? h key with
  | some (.write _ _) => true
  | _ => false

/-- The earliest write of the key since its last removal stands at position `i`. -/
structure BeginsAt (h : History) (key : String) (i : Nat) : Prop where
  /-- There is a write of the key. -/
  write : ∃ value, h[i]? = some (.write key value)
  /-- The key is not removed later. -/
  kept : ∀ j, i < j → h[j]? ≠ some (.remove key)
  /-- Every earlier write of the key is undone by a removal in between. -/
  first : ∀ j value, j < i → h[j]? = some (.write key value) →
    ∃ l, j < l ∧ l < i ∧ h[l]? = some (.remove key)

/-- The first key begins before the second one. -/
def Precedes (h : History) (a b : String) : Prop :=
  ∃ i j, BeginsAt h a i ∧ BeginsAt h b j ∧ i < j

/-- The pairs that a history leaves. -/
structure Leaves (h : History) (ps : List (String × String)) : Prop where
  /-- A key has a value if its last change is a write of that value. -/
  mem_iff : ∀ key value, (key, value) ∈ ps ↔ last? h key = some (.write key value)
  /-- No key occurs twice. -/
  nodup : (ps.map Prod.fst).Nodup
  /-- The keys stand in the order in which they begin. -/
  ordered : (ps.map Prod.fst).Pairwise (Precedes h)

/-! ### One more change -/

@[simp] theorem last?_nil (key : String) : last? [] key = none := rfl

theorem last?_concat (h : History) (m : Mutation) (key : String) :
    last? (h ++ [m]) key = if m.key = key then some m else last? h key := by
  rw [last?, List.reverse_append, List.reverse_singleton, List.singleton_append, List.find?_cons]
  by_cases hm : m.key = key
  · rw [if_pos hm, beq_iff_eq.2 hm]
  · rw [if_neg hm, beq_eq_false_iff_ne.2 hm]
    rfl

theorem key_of_last? {h : History} {m : Mutation} {key : String} (hm : last? h key = some m) :
    m.key = key := by
  simpa using List.find?_some hm

theorem present_iff {h : History} {key : String} :
    present h key = true ↔ ∃ value, last? h key = some (.write key value) := by
  unfold present
  split
  · next k value hm =>
    obtain rfl : k = key := key_of_last? hm
    simp [hm]
  · next hm => simpa using fun value => hm key value

theorem getElem?_concat_eq_some {h : History} {m x : Mutation} {i : Nat} :
    (h ++ [m])[i]? = some x ↔ h[i]? = some x ∨ (i = h.length ∧ x = m) := by
  rcases Nat.lt_trichotomy i h.length with hi | rfl | hi
  · rw [List.getElem?_append_left hi]
    simp [Nat.ne_of_lt hi]
  · simp [eq_comm]
  · rw [List.getElem?_eq_none (by simp; omega), List.getElem?_eq_none (by omega)]
    simp [Nat.ne_of_gt hi]

theorem BeginsAt.lt_length {h : History} {key : String} {i : Nat} (b : BeginsAt h key i) :
    i < h.length := by
  obtain ⟨value, hi⟩ := b.write
  exact (List.getElem?_eq_some_iff.1 hi).1

/-- A key that begins somewhere does so still after any change but its own removal. -/
theorem BeginsAt.concat {h : History} {key : String} {i : Nat} (b : BeginsAt h key i)
    {m : Mutation} (hm : m ≠ .remove key) : BeginsAt (h ++ [m]) key i where
  write := by
    obtain ⟨value, hi⟩ := b.write
    exact ⟨value, getElem?_concat_eq_some.2 (Or.inl hi)⟩
  kept := by
    intro j hij hj
    rcases getElem?_concat_eq_some.1 hj with hj | ⟨-, hj⟩
    · exact b.kept j hij hj
    · exact hm hj.symm
  first := by
    intro j value hji hj
    have hlt := b.lt_length
    rcases getElem?_concat_eq_some.1 hj with hj | ⟨rfl, -⟩
    · obtain ⟨l, hjl, hli, hl⟩ := b.first j value hji hj
      exact ⟨l, hjl, hli, getElem?_concat_eq_some.2 (Or.inl hl)⟩
    · omega

/-- A write of a key that is not present any more is followed by a removal. -/
theorem exists_remove {h : History} {key value : String} {i : Nat}
    (hi : h[i]? = some (.write key value)) (hp : present h key = false) :
    ∃ l, i < l ∧ h[l]? = some (.remove key) := by
  induction h using List.reverseRecOn with
  | nil => simp at hi
  | append_singleton h m ih =>
    have hp' : ∀ w, last? (h ++ [m]) key ≠ some (.write key w) := by
      intro w hw
      rw [present_iff.2 ⟨w, hw⟩] at hp
      exact Bool.noConfusion hp
    by_cases hm : m.key = key
    · -- the last change is one of the key, and so its removal
      have hlast : last? (h ++ [m]) key = some m := by rw [last?_concat, if_pos hm]
      cases m with
      | write k w =>
        obtain rfl : k = key := hm
        exact absurd hlast (hp' w)
      | remove k =>
        obtain rfl : k = key := hm
        rcases getElem?_concat_eq_some.1 hi with hi | ⟨-, hi⟩
        · exact ⟨h.length, (List.getElem?_eq_some_iff.1 hi).1,
            getElem?_concat_eq_some.2 (Or.inr ⟨rfl, rfl⟩)⟩
        · exact Mutation.noConfusion hi
    · have hlast : last? (h ++ [m]) key = last? h key := by rw [last?_concat, if_neg hm]
      rcases getElem?_concat_eq_some.1 hi with hi | ⟨-, rfl⟩
      · have hph : present h key = false := by
          rw [Bool.eq_false_iff, Ne, present_iff]
          rintro ⟨w, hw⟩
          exact hp' w (hlast.trans hw)
        obtain ⟨l, hil, hl⟩ := ih hi hph
        exact ⟨l, hil, getElem?_concat_eq_some.2 (Or.inl hl)⟩
      · exact absurd rfl hm

/-- A key that is not present begins with its next write. -/
theorem beginsAt_concat_write {h : History} {key : String} (value : String)
    (hp : present h key = false) : BeginsAt (h ++ [.write key value]) key h.length where
  write := ⟨value, getElem?_concat_eq_some.2 (Or.inr ⟨rfl, rfl⟩)⟩
  kept := by
    intro j hj hr
    rcases getElem?_concat_eq_some.1 hr with hr | ⟨-, hr⟩
    · have := (List.getElem?_eq_some_iff.1 hr).1
      omega
    · exact Mutation.noConfusion hr
  first := by
    intro j w hj hw
    rcases getElem?_concat_eq_some.1 hw with hw | ⟨rfl, -⟩
    · obtain ⟨l, hjl, hl⟩ := exists_remove hw hp
      exact ⟨l, hjl, (List.getElem?_eq_some_iff.1 hl).1, getElem?_concat_eq_some.2 (Or.inl hl)⟩
    · omega

/-- A key that is present begins somewhere. -/
theorem exists_beginsAt {h : History} {key : String} (hp : present h key = true) :
    ∃ i, BeginsAt h key i := by
  induction h using List.reverseRecOn with
  | nil => exact Bool.noConfusion hp
  | append_singleton h m ih =>
    obtain ⟨value, hvalue⟩ := present_iff.1 hp
    rw [last?_concat] at hvalue
    split at hvalue
    · obtain rfl : m = .write key value := Option.some.inj hvalue
      cases hph : present h key with
      | true =>
        obtain ⟨i, hi⟩ := ih hph
        exact ⟨i, hi.concat Mutation.noConfusion⟩
      | false => exact ⟨h.length, beginsAt_concat_write value hph⟩
    · next hm =>
      obtain ⟨i, hi⟩ := ih (present_iff.2 ⟨value, hvalue⟩)
      refine ⟨i, hi.concat ?_⟩
      rintro rfl
      exact hm rfl

/-- A key begins at one position only. -/
theorem BeginsAt.unique {h : History} {key : String} {i j : Nat} (hi : BeginsAt h key i)
    (hj : BeginsAt h key j) : i = j := by
  -- of two positions the later one is ruled out by the removal that it needs after the first
  have notLt : ∀ {a b : Nat}, BeginsAt h key a → BeginsAt h key b → ¬ a < b := by
    intro a b ha hb hab
    obtain ⟨value, hw⟩ := ha.write
    obtain ⟨l, hal, -, hl⟩ := hb.first a value hab hw
    exact ha.kept l hal hl
  have := notLt hi hj
  have := notLt hj hi
  omega

theorem Precedes.asymm {h : History} {a b : String} (hab : Precedes h a b) :
    ¬ Precedes h b a := by
  rintro ⟨i, j, hi, hj, hij⟩
  obtain ⟨k, l, hk, hl, hkl⟩ := hab
  have := hi.unique hl
  have := hj.unique hk
  omega

/-! ### The pairs that are left -/

theorem leaves_nil : Leaves [] [] where
  mem_iff := by simp
  nodup := List.nodup_nil
  ordered := List.Pairwise.nil

theorem Leaves.mem_keys_iff {h : History} {ps : List (String × String)} (l : Leaves h ps)
    (key : String) : key ∈ ps.map Prod.fst ↔ present h key = true := by
  rw [present_iff, List.mem_map]
  constructor
  · rintro ⟨⟨k, value⟩, hmem, rfl⟩
    exact ⟨value, (l.mem_iff k value).1 hmem⟩
  · rintro ⟨value, hvalue⟩
    exact ⟨(key, value), (l.mem_iff key value).2 hvalue, rfl⟩

theorem Leaves.lookup {h : History} {ps : List (String × String)} (l : Leaves h ps)
    (key value : String) :
    ps.lookup key = some value ↔ last? h key = some (.write key value) := by
  rw [lookup_eq_some_iff l.nodup, l.mem_iff]

/-- The keys keep their order while none of them is removed. -/
theorem Leaves.ordered_concat {h : History} {ps : List (String × String)} (l : Leaves h ps)
    {m : Mutation} {keys : List String} (hkeys : keys.Sublist (ps.map Prod.fst))
    (hm : ∀ key ∈ keys, m ≠ .remove key) : keys.Pairwise (Precedes (h ++ [m])) := by
  refine List.Pairwise.imp_of_mem ?_ (l.ordered.sublist hkeys)
  rintro a b ha hb ⟨i, j, hi, hj, hij⟩
  exact ⟨i, j, hi.concat (hm a ha), hj.concat (hm b hb), hij⟩

theorem Leaves.write {h : History} {ps : List (String × String)} (l : Leaves h ps)
    (key value : String) : Leaves (h ++ [.write key value]) (insertPair key value ps) := by
  have hnodup := nodup_insertPair key value l.nodup
  have hkept : (ps.map Prod.fst).Pairwise (Precedes (h ++ [.write key value])) :=
    l.ordered_concat (List.Sublist.refl _) fun _ _ => Mutation.noConfusion
  refine ⟨?_, hnodup, ?_⟩
  · intro k v
    rw [← lookup_eq_some_iff hnodup, lookup_insertPair, last?_concat, Mutation.key]
    by_cases hk : k = key
    · simp [hk]
    · rw [if_neg hk, if_neg (Ne.symm hk), l.lookup]
  · rw [keys_insertPair]
    split
    · exact hkept
    · next hnew =>
      have hp : present h key = false := by
        rw [Bool.eq_false_iff, Ne, ← l.mem_keys_iff]
        exact hnew
      refine List.pairwise_append.2 ⟨hkept, List.pairwise_singleton _ _, ?_⟩
      intro a ha b hb
      obtain rfl := List.mem_singleton.1 hb
      obtain ⟨i, hi⟩ := exists_beginsAt ((l.mem_keys_iff a).1 ha)
      exact ⟨i, h.length, hi.concat Mutation.noConfusion, beginsAt_concat_write value hp,
        hi.lt_length⟩

theorem Leaves.remove {h : History} {ps : List (String × String)} (l : Leaves h ps)
    (key : String) : Leaves (h ++ [.remove key]) (ps.filter (·.1 != key)) := by
  have hsub : ((ps.filter (·.1 != key)).map Prod.fst).Sublist (ps.map Prod.fst) :=
    List.filter_sublist.map _
  have hnodup := l.nodup.sublist hsub
  refine ⟨?_, hnodup, l.ordered_concat hsub ?_⟩
  · intro k v
    rw [← lookup_eq_some_iff hnodup, lookup_filter_ne, last?_concat, Mutation.key]
    by_cases hk : k = key
    · simp [hk]
    · rw [if_neg hk, if_neg (Ne.symm hk), l.lookup]
  · intro k hk hm
    obtain ⟨p, hp, rfl⟩ := List.mem_map.1 hk
    rw [List.mem_filter] at hp
    obtain rfl : key = p.1 := Mutation.remove.inj hm
    simp at hp

/-- **A history leaves one list of pairs only.** -/
theorem Leaves.unique {h : History} {ps qs : List (String × String)} (l : Leaves h ps)
    (l' : Leaves h qs) : ps = qs := by
  have hperm : ps.Perm qs := by
    refine (List.perm_ext_iff_of_nodup (List.Nodup.of_map _ l.nodup)
      (List.Nodup.of_map _ l'.nodup)).2 ?_
    rintro ⟨key, value⟩
    rw [l.mem_iff, l'.mem_iff]
  have hps : ps.Pairwise fun p q => Precedes h p.1 q.1 := List.pairwise_map.1 l.ordered
  have hqs : qs.Pairwise fun p q => Precedes h p.1 q.1 := List.pairwise_map.1 l'.ordered
  refine List.Perm.eq_of_pairwise ?_ hps hqs hperm
  intro p q _ _ hpq hqp
  exact absurd hqp hpq.asymm

end History

/-! ### Replay -/

open History

/-- The pairs after one change. -/
def Mutation.apply (ps : List (String × String)) : Mutation → List (String × String)
  | .write key value => insertPair key value ps
  | .remove key => ps.filter (·.1 != key)

/-- The pairs after the changes of a history, one by one. -/
def replay (h : History) : List (String × String) := h.foldl Mutation.apply []

@[simp] theorem replay_nil : replay [] = [] := rfl

theorem replay_append (h h' : History) : replay (h ++ h') = h'.foldl Mutation.apply (replay h) :=
  List.foldl_append

@[simp] theorem replay_concat (h : History) (m : Mutation) :
    replay (h ++ [m]) = m.apply (replay h) := by
  rw [replay_append, List.foldl_cons, List.foldl_nil]

/-- **The replay of a history is what the history leaves.** -/
theorem leaves_replay (h : History) : Leaves h (replay h) := by
  induction h using List.reverseRecOn with
  | nil => exact leaves_nil
  | append_singleton h m ih =>
    rw [replay_concat]
    cases m with
    | write key value => exact ih.write key value
    | remove key => exact ih.remove key

end Settings
