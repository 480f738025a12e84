import Settings.Proofs.Number.Numeral
import Settings.Proofs.OrderedMap
import Settings.Proofs.Store.History
import Settings.Store.Request

/-!
# What calls do to the pairs

A call on a store comes down to changes of keys, which the call and the history before it
fix between them.  Reads and calls that fail change nothing; a write under a key that has
to be missing looks into the history whether the key is present; a copy of another store
writes its pairs up to the first whose key cannot be written.

## Main definitions

* `Value.rendering?` — the text that a typed write stores for a value.
* `Store.startingPairs` — the pairs that a store starts from, said of the list that it is given.
* `Store.copied` — the pairs of another store that a copy writes.
* `Store.Request.mutations` — the changes that a call makes after a history.
* `Store.history`, `Store.reached` — the history of a store from its making, and the store.

## Main results

* `Store.seedPairs_eq`, `Store.seedPairs_of_nodup` — the pairs that a store starts from.
* `Store.textPairs_perform` — one call makes its changes.
* `Store.textPairs_reached` — the pairs after a run are the replay of its history.
-/

namespace Settings

open Number History

/-! ### Rendered values -/

/-- The text that a typed write stores for a value: truth values in small letters, integers
in decimal if they have no more than `digitLimit` digits, texts as they are. -/
def Value.rendering? : Value → Option String
  | .scalar (.bool b) => some (if b then "true" else "false")
  | .scalar (.int n) =>
    if (Nat.toDigits 10 n.natAbs).length ≤ digitLimit then some (toString n) else none
  | v => v.display.toOption

theorem Value.stored_int (n : Int) : (Value.int n).stored = printInteger n := rfl

/-- A typed write stores the rendering of its value. -/
theorem Value.toOption_stored (v : Value) : v.stored.toOption = v.rendering? := by
  unfold Value.stored Value.rendering?
  split
  · rfl
  · next hbool =>
    split
    · exact absurd rfl (hbool _)
    · next n =>
      change (printInteger n).toOption = _
      rw [printInteger, decimal_eq_toDigits, numeralInt_eq_toString]
      split <;> rfl
    · rfl

theorem Value.stored_eq_ok_iff {v : Value} {text : String} :
    v.stored = .ok text ↔ v.rendering? = some text := by
  rw [← Value.toOption_stored]
  cases v.stored <;> simp [Except.toOption]

theorem Value.exists_stored_error {v : Value} (h : v.rendering? = none) :
    ∃ fault, v.stored = .error fault := by
  rw [← Value.toOption_stored] at h
  cases hs : v.stored with
  | ok text => rw [hs] at h; exact nomatch h
  | error fault => exact ⟨fault, rfl⟩

namespace Store

/-! ### The changes of a call -/

/-- The key under which a pair of another store is written: an entry that is a key stands
for its own key, if it is one for texts. -/
def target? : StoredKey → Option String
  | .text key => some key
  | .entry key default => if default.type = .text then some key else none
  | .object _ key type => if type = .text then some key else none
  | _ => none

/-- The pairs of another store that a copy writes, up to the first whose key it cannot. -/
def copied : List (StoredKey × String) → List (String × String)
  | [] => []
  | (key, value) :: ps =>
    match target? key with
    | some key => (key, value) :: copied ps
    | none => []

/-- The changes of a typed write: no value removes the key, and a value of the type of the
default is written if it can be rendered. -/
def typedMutations (e : Entry) (v : Value) : History :=
  match v with
  | .scalar .null => [.remove e.key]
  | v =>
    if v.type = e.default.type then (v.rendering?.map (Mutation.write e.key)).toList else []

/-- The changes that a call makes after a history. -/
def Request.mutations (past : History) : Request → History
  | .set (.name key) v => (v.text?.map (Mutation.write key)).toList
  | .set (.entry e) v => typedMutations e v
  | .setIfMissing (.name key) v =>
    if present past key then [] else (v.text?.map (Mutation.write key)).toList
  | .setAll ps => (copied ps).map fun p => .write p.1 p.2
  | .remove (.name key) => [.remove key]
  | _ => []

/-- The history after more calls. -/
def historyFrom (past : History) : List Request → History
  | [] => past
  | r :: rs => historyFrom (past ++ r.mutations past) rs

/-- The pairs that a store starts from: each key that is a text, where it stands first, with the
value that stands last with it, if that is a text too. -/
def startingPairs (ps : List (Value × Value)) : List (String × String) :=
  (ps.filterMap fun p => p.1.text?).eraseDups.filterMap fun key =>
    (ps.filter fun p => p.1.text? == some key).getLast?.bind fun p =>
      p.2.text?.map fun value => (key, value)

/-- The changes that the pairs to start from make. -/
def seeding (seed : Option (List (Value × Value))) : History :=
  (startingPairs (seed.getD [])).map fun p => .write p.1 p.2

/-- The history of a store from its making: the pairs to start from, then the calls. -/
def history (seed : Option (List (Value × Value))) (rs : List Request) : History :=
  historyFrom (seeding seed) rs

theorem map_fst_keyed (ps : List (Value × Value)) :
    (ps.filterMap fun p => p.1.text?.map (·, p.2)).map Prod.fst = ps.filterMap fun p => p.1.text? := by
  rw [List.map_filterMap]
  refine List.filterMap_congr fun p _ => ?_
  rw [Option.map_map]
  exact Option.map_id'

/-- The pairs with a key that is a text are those that are found under it. -/
theorem filter_keyed (ps : List (Value × Value)) (key : String) :
    (ps.filterMap fun p => p.1.text?.map (·, p.2)).filter (·.1 == key)
      = (ps.filter fun p => p.1.text? == some key).map fun p => (key, p.2) := by
  induction ps with
  | nil => rfl
  | cons p ps ih =>
    cases hp : p.1.text? with
    | none => simpa [hp] using ih
    | some k =>
      by_cases hk : k = key
      · subst hk
        simpa [hp] using ih
      · simpa [hp, hk] using ih

/-- A store starts from these pairs and no others. -/
theorem seedPairs_eq (ps : List (Value × Value)) : seedPairs ps = startingPairs ps := by
  rw [seedPairs, OrderedMap.toList_eq_filterMap, OrderedMap.keys_ofList, map_fst_keyed,
    List.filterMap_filterMap, startingPairs]
  refine List.filterMap_congr fun key _ => ?_
  rw [OrderedMap.ofList, OrderedMap.find?_insertAll, filter_keyed, OrderedMap.find?_empty,
    Option.or_none, List.getLast?_map]
  cases (ps.filter fun p => p.1.text? == some key).getLast? <;> rfl

/-- Of a map the pairs of texts count, in order. -/
theorem seedPairs_of_nodup {ps : List (Value × Value)}
    (h : (ps.filterMap fun p => p.1.text?).Nodup) :
    seedPairs ps = ps.filterMap fun p =>
      p.1.text?.bind fun key => p.2.text?.map fun value => (key, value) := by
  have hlist : (OrderedMap.ofList (ps.filterMap fun p => p.1.text?.map (·, p.2))).toList
      = ps.filterMap fun p => p.1.text?.map (·, p.2) :=
    OrderedMap.toList_insertAll .empty (map_fst_keyed ps ▸ h)
  rw [seedPairs, hlist, List.filterMap_filterMap]
  refine List.filterMap_congr fun p _ => ?_
  cases p.1.text? <;> rfl

/-! ### The pairs with texts for keys -/

theorem filterMap_insertPair_text (key value : String) (ps : List (StoredKey × String)) :
    (insertPair (.text key) value ps).filterMap textPair?
      = insertPair key value (ps.filterMap textPair?) := by
  induction ps with
  | nil => rfl
  | cons p ps ih =>
    obtain ⟨k, v⟩ := p
    by_cases hk : k = .text key
    · subst hk
      simp [insertPair, textPair?]
    · rw [insertPair, if_neg hk, List.filterMap_cons, List.filterMap_cons, ih]
      cases k with
      | text k =>
        have hne : k ≠ key := fun h => hk (congrArg StoredKey.text h)
        simp [textPair?, insertPair, hne]
      | _ => rfl

theorem textPair?_other {k : StoredKey} (hk : ∀ t, k ≠ .text t) (value : String) :
    textPair? (k, value) = none := by
  cases k with
  | text t => exact absurd rfl (hk t)
  | _ => rfl

theorem filterMap_insertPair_other {k : StoredKey} (hk : ∀ t, k ≠ .text t) (value : String)
    (ps : List (StoredKey × String)) :
    (insertPair k value ps).filterMap textPair? = ps.filterMap textPair? := by
  have hnone := textPair?_other hk
  induction ps with
  | nil => rw [insertPair, List.filterMap_cons_none (hnone value)]
  | cons p ps ih =>
    obtain ⟨k', v⟩ := p
    by_cases h : k' = k
    · rw [insertPair, if_pos h, List.filterMap_cons_none (hnone value), h,
        List.filterMap_cons_none (hnone v)]
    · rw [insertPair, if_neg h, List.filterMap_cons, List.filterMap_cons, ih]

theorem filterMap_filter_text (key : String) (ps : List (StoredKey × String)) :
    (ps.filter (·.1 != .text key)).filterMap textPair?
      = (ps.filterMap textPair?).filter (·.1 != key) := by
  induction ps with
  | nil => rfl
  | cons p ps ih =>
    obtain ⟨k, v⟩ := p
    by_cases ht : ∃ t, k = .text t
    · obtain ⟨t, rfl⟩ := ht
      by_cases h : t = key
      · simp [textPair?, h, ih]
      · simp [textPair?, h, ih]
    · have hk : ∀ t, k ≠ .text t := fun t h => ht ⟨t, h⟩
      have hnone := textPair?_other hk v
      rw [List.filter_cons_of_pos (by simpa using hk key), List.filterMap_cons_none hnone,
        List.filterMap_cons_none hnone, ih]

theorem filterMap_filter_other {k : StoredKey} (hk : ∀ t, k ≠ .text t)
    (ps : List (StoredKey × String)) :
    (ps.filter (·.1 != k)).filterMap textPair? = ps.filterMap textPair? := by
  induction ps with
  | nil => rfl
  | cons p ps ih =>
    obtain ⟨k', v⟩ := p
    by_cases h : k' = k
    · rw [List.filter_cons_of_neg (by simp [h]), h,
        List.filterMap_cons_none (textPair?_other hk v), ih]
    · rw [List.filter_cons_of_pos (by simpa using h), List.filterMap_cons, List.filterMap_cons,
        ih]

theorem textPairs_congr {s s' : Store} (h : s.config = s'.config) : s.textPairs = s'.textPairs := by
  unfold textPairs toList
  rw [h]

@[simp] theorem textPairs_afterGet (s : Store) (key : String) :
    (s.afterGet key).textPairs = s.textPairs := textPairs_congr (config_afterGet s key)

@[simp] theorem textPairs_afterRead (s : Store) (a : Accessor) (e : Entry) :
    (s.afterRead a e).textPairs = s.textPairs := textPairs_congr (config_afterRead s a e)

@[simp] theorem textPairs_put (s : Store) (key value : String) :
    (s.put key value).textPairs = insertPair key value s.textPairs :=
  filterMap_insertPair_text key value s.toList

@[simp] theorem textPairs_write (s : Store) (key value : String) :
    (s.write key value).1.textPairs = insertPair key value s.textPairs :=
  filterMap_insertPair_text key value s.toList

@[simp] theorem textPairs_remove (s : Store) (key : String) :
    (s.remove key).textPairs = s.textPairs.filter (·.1 != key) :=
  filterMap_filter_text key s.toList

theorem textPairs_writeAll (s : Store) (ps : List (String × String)) :
    (s.writeAll ps).1.textPairs
      = (ps.map fun p => Mutation.write p.1 p.2).foldl Mutation.apply s.textPairs := by
  induction ps generalizing s with
  | nil => rfl
  | cons p ps ih =>
    have hrest := ih (s.write p.1 p.2).1
    rw [textPairs_write] at hrest
    exact hrest

/-- The store has a value of its own for the keys of its pairs. -/
theorem contains_iff_mem_textPairs (s : Store) (key : String) :
    s.contains key = true ↔ key ∈ s.textPairs.map Prod.fst := by
  rw [contains, OrderedMap.contains_iff, OrderedMap.keys, List.mem_map, List.mem_map]
  constructor
  · rintro ⟨⟨k, v⟩, hp, rfl⟩
    exact ⟨(key, v), List.mem_filterMap.2 ⟨_, hp, rfl⟩, rfl⟩
  · rintro ⟨⟨k, v⟩, hp, rfl⟩
    obtain ⟨⟨k', w⟩, hq, heq⟩ := List.mem_filterMap.1 hp
    cases k' with
    | text t =>
      obtain ⟨rfl, rfl⟩ := Prod.mk.inj (Option.some.inj heq)
      exact ⟨(.text t, w), hq, rfl⟩
    | _ => cases heq

/-! ### Keys that are no texts -/

theorem ofValue?_ne_text {v : Value} (hv : v.text? = none) {k : StoredKey}
    (hk : StoredKey.ofValue? v = some k) (t : String) : k ≠ .text t := by
  rintro rfl
  cases v with
  | scalar s => cases s <;> simp_all [StoredKey.ofValue?, Value.text?]
  | _ => simp [StoredKey.ofValue?] at hk

theorem numbered_ne_text {k : StoredKey} (hk : ∀ t, k ≠ .text t) (n : Nat) (t : String) :
    k.numbered n ≠ .text t := by
  cases k with
  | text k => exact absurd rfl (hk k)
  | _ => exact StoredKey.noConfusion

theorem textPairs_store (s : Store) {k : StoredKey} (hk : ∀ t, k ≠ .text t) (value : String) :
    (s.store k value).textPairs = s.textPairs :=
  filterMap_insertPair_other (numbered_ne_text hk s.objects) value s.toList

theorem textPairs_drop (s : Store) {k : StoredKey} (hk : ∀ t, k ≠ .text t) :
    (s.drop k).textPairs = s.textPairs := by
  unfold drop
  split
  · rfl
  · next found hfound =>
    -- a text that is found under the key would be the key itself
    have hne : ∀ t, found ≠ .text t := by
      rintro t rfl
      rw [found?] at hfound
      have hsame : (StoredKey.text t).same k = true := by simpa using List.find?_some hfound
      exact hk t ((StoredKey.same_text t k).1 hsame)
    exact filterMap_filter_other hne s.toList

theorem textPairs_setOtherIfMissing (s : Store) {key : Value} (hkey : key.text? = none)
    (v : Value) : (s.setOtherIfMissing key v).store.textPairs = s.textPairs := by
  unfold setOtherIfMissing
  split
  · next value =>
    split
    · rfl
    · next k hk =>
      split
      · rfl
      · exact textPairs_store s (ofValue?_ne_text hkey hk) value
  · split <;> rfl

theorem textPairs_removeOther (s : Store) {key : Value} (hkey : key.text? = none) :
    (s.removeOther key).store.textPairs = s.textPairs := by
  unfold removeOther
  split
  · rfl
  · split
    · rfl
    · next k hk => exact textPairs_drop s (ofValue?_ne_text hkey hk)

theorem text?_toValue_entry (e : Entry) : (Key.entry e).toValue.text? = none := by
  cases e <;> rfl

theorem text?_of_namesKey {v : Value} (h : v.namesKey = false) : v.text? = none := by
  cases v with
  | scalar s =>
    cases s with
    | text t => exact absurd h Bool.noConfusion
    | _ => rfl
  | _ => rfl

/-! ### One call -/

theorem textPairs_setRaw (s : Store) (key : String) (v : Value) :
    (s.setRaw key v).store.textPairs
      = (v.text?.map (Mutation.write key)).toList.foldl Mutation.apply s.textPairs := by
  cases hv : v.text? with
  | none => rw [setRaw_of_not_text s key hv]; rfl
  | some value =>
    obtain rfl : v = .text value := Value.eq_text_of_text? hv
    rw [setRaw_text]
    exact textPairs_write s key value

theorem textPairs_setIfMissing (s : Store) (key : String) (v : Value) :
    (s.setIfMissing key v).store.textPairs
      = (if s.contains key then [] else (v.text?.map (Mutation.write key)).toList).foldl
          Mutation.apply s.textPairs := by
  cases hv : v.text? with
  | none =>
    rw [setIfMissing_of_not_text s key hv]
    split <;> rfl
  | some value =>
    obtain rfl : v = .text value := Value.eq_text_of_text? hv
    cases hc : s.contains key with
    | true => rw [setIfMissing_of_contains hc]; rfl
    | false =>
      rw [setIfMissing_of_not_contains hc]
      exact textPairs_put s key value

theorem typedMutations_of_ne_null {e : Entry} {v : Value} (hv : v ≠ .null) :
    typedMutations e v
      = if v.type = e.default.type then (v.rendering?.map (Mutation.write e.key)).toList
        else [] := by
  unfold typedMutations
  split
  · exact absurd rfl hv
  · rfl

theorem textPairs_setEntry (s : Store) (e : Entry) (v : Value) :
    (s.setEntry e v).store.textPairs
      = (typedMutations e v).foldl Mutation.apply s.textPairs := by
  by_cases hv : v = .null
  · subst hv
    rw [setEntry_null]
    exact textPairs_remove s e.key
  · rw [typedMutations_of_ne_null hv]
    by_cases ht : v.type = e.default.type
    · rw [setEntry_of_type_eq s hv ht, if_pos ht, ← Value.toOption_stored]
      cases v.stored with
      | ok text => exact textPairs_write s e.key text
      | error fault => rfl
    · rw [setEntry_of_type_ne s hv ht, if_neg ht]
      rfl

/-- A write under a key of another store: it succeeds if the key has a target. -/
theorem set_keyOf (s : Store) (key : StoredKey) (value : String) :
    match target? key with
    | some k => s.set (keyOf key) (.text value)
        = ⟨.ok (), (s.write k value).1, (s.write k value).2⟩
    | none => ∃ fault, s.set (keyOf key) (.text value) = ⟨.error fault, s, []⟩ := by
  have hentry : ∀ e : Entry, s.setEntry e (.text value)
      = if e.default.type = .text then
          ⟨.ok (), (s.write e.key value).1, (s.write e.key value).2⟩
        else ⟨.error (.wrongValueType e.key e.default.type .text), s, []⟩ := by
    intro e
    have hv : Value.text value ≠ .null := by simp
    split
    · next ht => rw [setEntry_of_type_eq s hv ht.symm]; rfl
    · next ht => rw [setEntry_of_type_ne s hv (Ne.symm ht)]; rfl
  -- a key that was an entry is one again, with a default of the same type
  cases key with
  | text k => rfl
  | entry k d =>
    have h := hentry (.declared k d)
    by_cases ht : d.type = .text
    · simp only [target?, ht, if_true]
      exact h.trans (if_pos ht)
    · simp only [target?, ht, if_false]
      exact ⟨_, h.trans (if_neg ht)⟩
  | object n k t =>
    have h := hentry (.adHoc k t.sample)
    rw [Entry.default_adHoc, ValueType.type_sample] at h
    by_cases ht : t = .text
    · simp only [target?, ht, if_true]
      rw [ht] at h
      exact h
    · simp only [target?, ht, if_false]
      exact ⟨_, h.trans (if_neg ht)⟩
  | _ => exact ⟨_, rfl⟩

/-- A copy of pairs that cannot all be written ends at the first that cannot. -/
theorem setAll_eq (s : Store) (ps : List (StoredKey × String)) :
    ∃ result,
      s.setAll ps = ⟨result, (s.writeAll (copied ps)).1, (s.writeAll (copied ps)).2⟩ ∧
      (result = .ok () ↔ ∀ p ∈ ps, (target? p.1).isSome) := by
  induction ps generalizing s with
  | nil => exact ⟨.ok (), rfl, by simp⟩
  | cons p ps ih =>
    obtain ⟨key, value⟩ := p
    have hset := set_keyOf s key value
    cases ht : target? key with
    | none =>
      simp only [ht] at hset
      obtain ⟨fault, hfault⟩ := hset
      refine ⟨.error fault, ?_, ?_⟩
      · simp only [setAll, hfault, copied, ht, writeAll_nil]
      · simp [ht]
    | some k =>
      simp only [ht] at hset
      obtain ⟨result, hrest, hiff⟩ := ih (s.write k value).1
      refine ⟨result, ?_, ?_⟩
      · simp only [setAll, hset, hrest, copied, ht, writeAll]
      · rw [hiff]
        simp [ht]

theorem textPairs_setAll (s : Store) (ps : List (StoredKey × String)) :
    (s.setAll ps).store.textPairs
      = ((copied ps).map fun p => Mutation.write p.1 p.2).foldl Mutation.apply s.textPairs := by
  obtain ⟨result, hall, -⟩ := setAll_eq s ps
  rw [hall]
  exact textPairs_writeAll s (copied ps)

/-- **One call makes its changes**, if the history knows which keys are present. -/
theorem textPairs_perform {s : Store} {h : History}
    (hp : ∀ key, s.contains key = present h key) (r : Request) :
    (s.perform r).store.textPairs = (r.mutations h).foldl Mutation.apply s.textPairs := by
  cases r with
  | get key =>
    cases key with
    | name key => exact textPairs_afterGet s key
    | entry e => exact textPairs_afterRead s .string e
    | other v hv => rfl
  | set key v =>
    cases key with
    | name key => exact textPairs_setRaw s key v
    | entry e => exact textPairs_setEntry s e v
    | other k hk => rfl
  | setIfMissing key v =>
    cases key with
    | name key =>
      have hset := textPairs_setIfMissing s key v
      rw [hp key] at hset
      exact hset
    | entry e => exact textPairs_setOtherIfMissing s (text?_toValue_entry e) v
    | other k hk => exact textPairs_setOtherIfMissing s (text?_of_namesKey hk) v
  | setAll ps => exact textPairs_setAll s ps
  | remove key =>
    cases key with
    | name key => exact textPairs_remove s key
    | entry e => exact textPairs_removeOther s (text?_toValue_entry e)
    | other k hk => exact textPairs_removeOther s (text?_of_namesKey hk)
  | read a e => exact textPairs_afterRead s a e
  | contains key => cases key <;> rfl
  | size => rfl
  | pairs => rfl
  | copy => rfl
  | tables => rfl
  | reads => rfl

/-! ### Runs -/

/-- The pairs of a store are what a history leaves, so that the history knows its keys. -/
theorem contains_eq_present {s : Store} {h : History} (hs : s.textPairs = replay h)
    (key : String) : s.contains key = present h key := by
  rw [Bool.eq_iff_iff, contains_iff_mem_textPairs, hs]
  exact (leaves_replay h).mem_keys_iff key

theorem textPairs_perform_replay {s : Store} {h : History} (hs : s.textPairs = replay h)
    (r : Request) : (s.perform r).store.textPairs = replay (h ++ r.mutations h) := by
  rw [textPairs_perform (contains_eq_present hs) r, replay_append, hs]

/-- The replay goes on with every call. -/
theorem textPairs_run_replay {s : Store} {h : History} (hs : s.textPairs = replay h)
    (rs : List Request) : (s.run rs).1.textPairs = replay (historyFrom h rs) := by
  induction rs generalizing s h with
  | nil => exact hs
  | cons r rs ih => exact ih (textPairs_perform_replay hs r)

theorem textPairs_create (t : Tables) (seed : Option (List (Value × Value))) :
    (create t seed).1.textPairs = replay (seeding seed) := by
  cases seed with
  | none => rfl
  | some ps =>
    show ((fresh t).writeAll (seedPairs ps)).1.textPairs = _
    rw [seedPairs_eq]
    exact textPairs_writeAll (fresh t) (startingPairs ps)

/-- The store that has been made and then called. -/
def reached (t : Tables) (seed : Option (List (Value × Value))) (rs : List Request) : Store :=
  ((create t seed).1.run rs).1

/-- **The pairs after a run are the replay of its history.** -/
theorem textPairs_reached (t : Tables) (seed : Option (List (Value × Value)))
    (rs : List Request) : (reached t seed rs).textPairs = replay (history seed rs) :=
  textPairs_run_replay (textPairs_create t seed) rs

end Store

end Settings
