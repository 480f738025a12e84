import Settings.Proofs.Store.Resolution

/-!
# Following the advice of a warning

The warning about an old key that has been replaced names a new key.  The index that the
warning is read off and the table that reads go by say the same of the two keys, so that the
value of the old key is read through the new one already, and moving it there changes
nothing that is read through the new key.

## Main results

* `alternative_of_reverseTable` — what the reverse of the alternatives says holds of them.
* `Store.replaced_of_warned` — so does what a warning says.
* `Store.migration_transparent` — **moving a value to the key that the warning names.**
-/

namespace Settings

/-- An old key is replaced by a current key only if it is the old key of that key. -/
theorem alternative_of_reverseTable {alternatives : DeprecationTable} {old : String}
    {r : Replacement} (h : (reverseTable alternatives).find? old = some r) :
    alternatives.find? r.newKey = some r.deprecation ∧ r.deprecation.key = old := by
  rw [find?_reverseTable, Option.map_eq_some_iff] at h
  obtain ⟨row, hlast, rfl⟩ := h
  obtain ⟨hmem, hkey⟩ := List.mem_filter.1 (List.mem_of_getLast? hlast)
  exact ⟨(alternatives.find?_eq_some_iff row.1 row.2).2 hmem, by simpa using hkey⟩

theorem Index.replacement_of_warning? {i : Index} {t : Tables} (h : i.Agrees t)
    {key old : String} {r : Replacement} (hw : i.warning? t key = some (.replaced old r)) :
    (reverseTable t.alternatives).find? key = some r ∧ old = key := by
  unfold warning? at hw
  rw [h.replacements] at hw
  split at hw
  · next r' hr =>
    obtain ⟨rfl, rfl⟩ := Warning.replaced.inj (Option.some.inj hw)
    exact ⟨hr, rfl⟩
  · -- a plain deprecation names no new key
    obtain ⟨d, -, hd⟩ := Option.map_eq_some_iff.1 hw
    cases hd

theorem Index.warning?_of_mem_note {i : Index} {t : Tables} {key : String} {w : Warning}
    (h : .deprecated w ∈ (i.note t key).2.2) : (i.force t).1.warning? t key = some w := by
  have hforce : .deprecated w ∉ (i.force t).2 := by
    unfold force
    split <;> simp
  rw [events_note, List.mem_append, or_iff_right hforce, Option.mem_toList,
    Option.map_eq_some_iff] at h
  obtain ⟨w', hw', heq⟩ := h
  rw [hw', Event.deprecated.inj heq]

namespace Store

/-- A warning names a key whose old key is the one that is written. -/
theorem replaced_of_warned {s : Store} {t : Tables} (hs : s.Follows t) {old value : String}
    {r : Replacement}
    (h : .deprecated (.replaced old r) ∈ (s.perform (.set (.name old) (.text value))).events) :
    t.oldKey? r.newKey = some old := by
  obtain ⟨rfl, hindex⟩ := hs
  have hwarn := Index.warning?_of_mem_note (i := s.index) h
  obtain ⟨hfind, -⟩ := Index.replacement_of_warning? hindex.force hwarn
  obtain ⟨hrow, hkey⟩ := alternative_of_reverseTable hfind
  rw [Tables.oldKey?, hrow, Option.map_some, hkey]

/-! ### Reads that see the same value -/

section Reads

variable {s s' : Store}

/-- What an accessor answers depends on the value of the key of its entry alone. -/
theorem read_congr {e : Entry} (h : s'.get e.key = s.get e.key) (a : Accessor) :
    s'.read a e = s.read a e := by
  cases a <;> simp only [read, getString, getBoolean, getInteger, getDuration, h]

theorem result_get_name_congr {key : String} (h : s'.get key = s.get key) :
    (s'.perform (.get (.name key))).result = (s.perform (.get (.name key))).result := by
  change Except.ok (Answer.scalar (((s'.get key).map .text).getD .null)) = _
  rw [h]
  rfl

theorem result_get_entry_congr {e : Entry} (h : s'.get e.key = s.get e.key) :
    (s'.perform (.get (.entry e))).result = (s.perform (.get (.entry e))).result :=
  congrArg (Except.map Answer.scalar) (read_congr h .string)

theorem result_read_congr {e : Entry} (h : s'.get e.key = s.get e.key) (a : Accessor) :
    (s'.perform (.read a e)).result = (s.perform (.read a e)).result :=
  congrArg (Except.map Answer.scalar) (read_congr h a)

/-- A read of a key that is none of two, and whose old key is none of them, stays the same
as long as all other keys keep their values. -/
theorem get_congr_of_ne {a b key : String} (ht : s'.tables = s.tables)
    (hown : ∀ k, k ≠ a → k ≠ b → s'.own? k = s.own? k) (ha : key ≠ a) (hb : key ≠ b)
    (halt : ∀ old, s.tables.oldKey? key = some old → old ≠ a ∧ old ≠ b) :
    s'.get key = s.get key := by
  rw [get_eq, get_eq, ht, hown key ha hb]
  cases hold : s.tables.oldKey? key with
  | none => rfl
  | some old =>
    obtain ⟨holda, holdb⟩ := halt old hold
    rw [Option.bind_some, Option.bind_some, hown old holda holdb]

end Reads

/-! ### The move -/

/-- The values after a value has been written under a new key and the old key removed. -/
theorem own?_migrated (s : Store) (old new value k : String) :
    (s.run [.set (.name new) (.text value), .remove (.name old)]).1.own? k
      = if k = old then none else if k = new then some value else s.own? k := by
  have hconfig : (s.run [.set (.name new) (.text value), .remove (.name old)]).1.config
      = (s.config.insert (.text new) value).erase (.text old) := rfl
  rw [own?, own?, hconfig, OrderedMap.find?_erase, OrderedMap.find?_insert]
  simp only [StoredKey.text.injEq]

theorem tables_migrated (s : Store) (old new value : String) :
    (s.run [.set (.name new) (.text value), .remove (.name old)]).1.tables = s.tables := rfl

/-- **Moving a value to the key that the warning names** changes nothing that is read through
that key.  The value of the old key is read through the new key before it is moved, and every
accessor on every entry of the new key answers the same afterwards; so does every read of a
key that is neither of the two and whose old key is neither of them. -/
theorem migration_transparent (t : Tables) (seed : Option (List (Value × Value)))
    (rs : List Request) {old new value : String} {d : Deprecation} {text : String}
    (hvalue : (reached t seed rs).own? old = some value)
    (hwarned : .deprecated (.replaced old ⟨new, d⟩)
      ∈ ((reached t seed rs).perform (.set (.name old) (.text text))).events)
    (hne : new ≠ old) (hnew : (reached t seed rs).own? new = none) :
    let s := reached t seed rs
    let s' := (s.run [.set (.name new) (.text value), .remove (.name old)]).1
    s.get new = some value ∧
      (s'.perform (.get (.name new))).result = (s.perform (.get (.name new))).result ∧
      (∀ e : Entry, e.key = new →
        (s'.perform (.get (.entry e))).result = (s.perform (.get (.entry e))).result ∧
        ∀ a, (s'.perform (.read a e)).result = (s.perform (.read a e)).result) ∧
      ∀ k, k ≠ old → k ≠ new → t.oldKey? k ≠ some old → t.oldKey? k ≠ some new →
        s'.get k = s.get k := by
  intro s s'
  have hs : s.Follows t := follows_reached t seed rs
  have hold : t.oldKey? new = some old := replaced_of_warned hs hwarned
  have hbefore : s.get new = some value := by
    rw [get_eq, hs.tables, hold, hnew, Option.none_or, Option.bind_some, hvalue]
  have hafter : s'.get new = some value := by
    rw [get_eq, own?_migrated, if_neg hne, if_pos rfl, Option.some_or]
  have hsame : s'.get new = s.get new := hafter.trans hbefore.symm
  refine ⟨hbefore, result_get_name_congr hsame, ?_, ?_⟩
  · rintro e rfl
    exact ⟨result_get_entry_congr hsame, result_read_congr hsame⟩
  · intro k hkold hknew hkold' hknew'
    have hown : ∀ k, k ≠ old → k ≠ new → s'.own? k = s.own? k := by
      intro k hk hk'
      rw [own?_migrated, if_neg hk, if_neg hk']
    refine get_congr_of_ne (tables_migrated s old new value) hown hkold hknew fun o ho => ?_
    rw [hs.tables] at ho
    exact ⟨fun h => hkold' (h ▸ ho), fun h => hknew' (h ▸ ho)⟩

/-- Of two keys that replace an old one the warning names the last, through which the old
value is read as a duration before and after it is moved. -/
theorem migration_to_last_row :
    let s := reached ⟨.ofList [("new", ⟨"old", "1", ""⟩), ("newer", ⟨"old", "2", ""⟩)], .empty⟩
      (some [(.text "old", .text "7s")]) []
    let s' := (s.run [.set (.name "newer") (.text "7s"), .remove (.name "old")]).1
    (s.own? "old" = some "7s" ∧ s.own? "newer" = none ∧
      .deprecated (.replaced "old" ⟨"newer", ⟨"old", "2", ""⟩⟩)
        ∈ (s.perform (.set (.name "old") (.text "8s"))).events) ∧
      s.get "newer" = some "7s" ∧
      (s'.perform (.read .duration (.declared "newer" (.text "1s")))).result
        = (s.perform (.read .duration (.declared "newer" (.text "1s")))).result := by
  intro s s'
  have hevents : (s.perform (.set (.name "old") (.text "8s"))).events
      = [.deprecated (.replaced "old" ⟨"newer", ⟨"old", "2", ""⟩⟩)] := rfl
  have hwarned : .deprecated (.replaced "old" ⟨"newer", ⟨"old", "2", ""⟩⟩)
      ∈ (s.perform (.set (.name "old") (.text "8s"))).events := by
    rw [hevents]
    exact List.mem_singleton_self _
  obtain ⟨hget, -, hread, -⟩ := migration_transparent
    ⟨.ofList [("new", ⟨"old", "1", ""⟩), ("newer", ⟨"old", "2", ""⟩)], .empty⟩
    (some [(.text "old", .text "7s")]) [] rfl hwarned (by decide) rfl
  exact ⟨⟨rfl, rfl, hwarned⟩, hget, (hread (.declared "newer" (.text "1s")) rfl).2 .duration⟩

end Store

end Settings
