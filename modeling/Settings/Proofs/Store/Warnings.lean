import Settings.Proofs.Store.Effect

/-!
# The warnings of a store

A store warns about every write of a deprecated key and about nothing else.  Which text a
key is warned about with depends on the tables alone: the index of old keys is built once,
from tables that stay as they are, so that it always says what the tables say.

## Main definitions

* `Tables.warningText?` — the warning about a key, read off the tables.
* `warningTexts` — the warnings among events.
* `Index.Agrees` — the index, if it is built, is that of the tables.
* `Store.Request.Renders` — the call does not fail at turning its value into text.
* `Store.Reports` — the events warn about the keys that changes write, and the store goes
  by its tables.
* `Store.logged` — what is logged from the making of a store on.

## Main results

* `Tables.isSome_warningText?_iff` — the keys that there is a warning about.
* `Index.message_warning?` — what an index that agrees with the tables warns about.
* `Store.Follows.perform` — one call warns about its writes.
* `Store.warnings_of_history` — **a run warns about its writes, in their order.**
-/

namespace Settings

open History

/-! ### The warning about a key -/

/-- The last row of the alternatives that has the given old key. -/
def Tables.replacing? (t : Tables) (key : String) : Option (String × Deprecation) :=
  (t.alternatives.toList.filter (·.2.key == key)).getLast?

/-- The warning about a key: that of the last row which replaces it, or else that of its row
among the deprecated keys. -/
def Tables.warningText? (t : Tables) (key : String) : Option String :=
  match t.replacing? key with
  | some (new, d) =>
    some (s!"The configuration key {key} has been deprecated as of {d.version} " ++
      "and may be removed in the future." ++ " Please use the new key " ++ new ++ " instead.")
  | none =>
    (t.deprecated.find? key).map fun d =>
      s!"The configuration key {d.key} has been deprecated as of {d.version} " ++
        "and may be removed in the future." ++ " " ++ d.advice

/-- There is a warning about the old keys of the alternatives and the deprecated keys. -/
theorem Tables.isSome_warningText?_iff (t : Tables) (key : String) :
    (t.warningText? key).isSome = true ↔
      (∃ row ∈ t.alternatives.toList, row.2.key = key) ∨ key ∈ t.deprecated.keys := by
  unfold warningText?
  cases hrow : t.replacing? key with
  | some row =>
    have hmem := List.mem_filter.1 (List.mem_of_getLast? hrow)
    simp only [Option.isSome_some, true_iff]
    exact Or.inl ⟨row, hmem.1, by simpa using hmem.2⟩
  | none =>
    have hnone : ¬ ∃ row ∈ t.alternatives.toList, row.2.key = key := by
      rintro ⟨row, hrow', hkey⟩
      rw [replacing?, List.getLast?_eq_none_iff, List.filter_eq_nil_iff] at hrow
      exact hrow row hrow' (by simpa using hkey)
    simp only [Option.isSome_map, hnone, false_or]
    exact OrderedMap.contains_iff t.deprecated key

/-- The reverse table has the last row for every old key. -/
theorem find?_reverseTable (alternatives : DeprecationTable) (key : String) :
    (reverseTable alternatives).find? key
      = ((alternatives.toList.filter (·.2.key == key)).getLast?).map fun row =>
          ⟨row.1, row.2⟩ := by
  rw [reverseTable, OrderedMap.ofList, OrderedMap.find?_insertAll, List.filter_map,
    List.getLast?_map, Option.map_map, OrderedMap.find?_empty, Option.or_none]
  rfl

/-- The warnings among events. -/
def warningTexts (es : List Event) : List String :=
  (es.filter fun e => e.level = .warning).map Event.message

@[simp] theorem warningTexts_nil : warningTexts [] = [] := rfl

@[simp] theorem warningTexts_append (es es' : List Event) :
    warningTexts (es ++ es') = warningTexts es ++ warningTexts es' := by
  rw [warningTexts, List.filter_append, List.map_append]
  rfl

/-! ### The index -/

namespace Index

/-- The index, if it is built, is the one of the tables. -/
def Agrees (i : Index) (t : Tables) : Prop :=
  ∀ r, i.built = some r → r = reverseTable t.alternatives

theorem agrees_fresh (t : Tables) : fresh.Agrees t := fun _ h => nomatch h

theorem Agrees.replacements {i : Index} {t : Tables} (h : i.Agrees t) :
    i.replacements t = reverseTable t.alternatives := by
  unfold Index.replacements
  cases hb : i.built with
  | none => rfl
  | some r => exact h r hb

theorem Agrees.of_built {i j : Index} {t : Tables} (h : i.Agrees t) (hj : j.built = i.built) :
    j.Agrees t := by
  intro r hr
  exact h r (hj ▸ hr)

theorem Agrees.force {i : Index} {t : Tables} (h : i.Agrees t) : (i.force t).1.Agrees t := by
  unfold Index.force
  split
  · exact h
  · exact fun r hr => (Option.some.inj hr).symm

theorem warningTexts_force (i : Index) (t : Tables) : warningTexts (i.force t).2 = [] := by
  unfold force
  split <;> rfl

theorem Agrees.note {i : Index} {t : Tables} (h : i.Agrees t) (key : String) :
    (i.note t key).2.1.Agrees t := by
  unfold Index.note check
  dsimp only
  split
  · exact h.force
  · exact h.force.of_built rfl

/-- **What an index that agrees with the tables warns about.** -/
theorem message_warning? {i : Index} {t : Tables} (h : i.Agrees t) (key : String) :
    (i.warning? t key).map Warning.message = t.warningText? key := by
  rw [warning?, h.replacements, find?_reverseTable, Tables.warningText?, Tables.replacing?]
  cases (t.alternatives.toList.filter (·.2.key == key)).getLast? with
  | some row => rfl
  | none => cases t.deprecated.find? key <;> rfl

/-- What is logged when a key is checked: that the index is built, if it was not, and the
warning about the key, if there is one. -/
theorem events_note (i : Index) (t : Tables) (key : String) :
    (i.note t key).2.2
      = (i.force t).2 ++ (((i.force t).1.warning? t key).map Event.deprecated).toList := by
  -- whether the table of deprecated keys is asked for makes no difference to the events
  unfold note check
  dsimp only
  split <;> rfl

theorem warningTexts_note {i : Index} {t : Tables} (h : i.Agrees t) (key : String) :
    warningTexts (i.note t key).2.2 = (t.warningText? key).toList := by
  rw [events_note, warningTexts_append, warningTexts_force, ← message_warning? h.force key]
  cases (i.force t).1.warning? t key <;> rfl

end Index

namespace Store

/-! ### The store -/

/-- The call does not fail at turning the value of a typed write into text. -/
def Request.Renders : Request → Prop
  | .set (.entry e) v => v.type = e.default.type → ∃ text, v.rendering? = some text
  | _ => True

/-- The store goes by the tables, and so does its index. -/
structure Follows (s : Store) (t : Tables) : Prop where
  /-- The tables are those of the store. -/
  tables : s.tables = t
  /-- The index is one of these tables. -/
  index : s.index.Agrees t

/-- The store goes by the tables, and the events warn about the keys that the changes
write. -/
structure Reports (t : Tables) (h : History) (s : Store) (es : List Event) : Prop where
  /-- The store is ready for further calls. -/
  follows : s.Follows t
  /-- There is one warning for every write of a key that has one, in order. -/
  warned : warningTexts es = (h.filterMap Mutation.written?).filterMap t.warningText?

theorem follows_fresh (t : Tables) : (fresh t).Follows t := ⟨rfl, Index.agrees_fresh t⟩

section Follows

variable {s s' : Store} {t : Tables}

theorem Follows.of_eq (hs : s.Follows t) (ht : s'.tables = s.tables)
    (hb : s'.index.built = s.index.built) : s'.Follows t :=
  ⟨ht.trans hs.tables, hs.index.of_built hb⟩

theorem Follows.silent (hs : s.Follows t) : Reports t [] s [] := ⟨hs, rfl⟩

theorem Reports.append {h h' : History} {es es' : List Event} (r : Reports t h s es)
    (r' : Reports t h' s' es') : Reports t (h ++ h') s' (es ++ es') :=
  ⟨r'.follows, by
    rw [warningTexts_append, r.warned, r'.warned, List.filterMap_append, List.filterMap_append]⟩

theorem Follows.note (hs : s.Follows t) (key : String) :
    (s.note key).1.Follows t ∧ warningTexts (s.note key).2 = (t.warningText? key).toList := by
  obtain ⟨rfl, hindex⟩ := hs
  exact ⟨⟨rfl, hindex.note key⟩, Index.warningTexts_note hindex key⟩

/-- A check of a key warns as a write of the key has to. -/
theorem Follows.reports (hs : s'.Follows t) {key : String} {es : List Event} (value : String)
    (hes : warningTexts es = (t.warningText? key).toList) :
    Reports t [.write key value] s' es := by
  refine ⟨hs, hes.trans ?_⟩
  have hwritten : [Mutation.write key value].filterMap Mutation.written? = [key] := rfl
  rw [hwritten, List.filterMap_cons]
  cases t.warningText? key <;> rfl

theorem Follows.write (hs : s.Follows t) (key value : String) :
    Reports t [.write key value] (s.write key value).1 (s.write key value).2 := by
  obtain ⟨hnote, hwarn⟩ := hs.note key
  have hwrite : (s.write key value).1.Follows t := hnote.of_eq rfl rfl
  exact hwrite.reports value hwarn

theorem Follows.writeAll (hs : s.Follows t) (ps : List (String × String)) :
    Reports t (ps.map fun p => .write p.1 p.2) (s.writeAll ps).1 (s.writeAll ps).2 := by
  induction ps generalizing s with
  | nil => exact hs.silent
  | cons p ps ih =>
    have hwrite := hs.write p.1 p.2
    exact hwrite.append (ih hwrite.follows)

theorem Follows.afterGet (hs : s.Follows t) (key : String) : (s.afterGet key).Follows t := by
  unfold Store.afterGet
  split
  · exact hs
  · exact hs.of_eq rfl rfl

theorem Follows.afterRead (hs : s.Follows t) (a : Accessor) (e : Entry) :
    (s.afterRead a e).Follows t := by
  unfold Store.afterRead
  split
  · exact hs.afterGet e.key
  · exact hs

/-! ### Calls that change the pairs -/

theorem Follows.setRaw (hs : s.Follows t) (key : String) (v : Value) :
    Reports t (v.text?.map (Mutation.write key)).toList (s.setRaw key v).store
      (s.setRaw key v).events := by
  cases hv : v.text? with
  | none => rw [setRaw_of_not_text s key hv]; exact hs.silent
  | some value =>
    obtain rfl : v = .text value := Value.eq_text_of_text? hv
    exact hs.write key value

theorem Follows.setIfMissing (hs : s.Follows t) (key : String) (v : Value) :
    Reports t (if s.contains key then [] else (v.text?.map (Mutation.write key)).toList)
      (s.setIfMissing key v).store (s.setIfMissing key v).events := by
  cases hv : v.text? with
  | none =>
    rw [setIfMissing_of_not_text s key hv]
    split <;> exact hs.silent
  | some value =>
    obtain rfl : v = .text value := Value.eq_text_of_text? hv
    cases hc : s.contains key with
    | true => rw [setIfMissing_of_contains hc]; exact hs.silent
    | false =>
      -- the check follows the write here, which makes no difference to it
      rw [setIfMissing_of_not_contains hc]
      have hput : (s.put key value).Follows t := hs.of_eq rfl rfl
      obtain ⟨hnote, hwarn⟩ := hput.note key
      exact hnote.reports value hwarn

theorem Follows.setEntry (hs : s.Follows t) (e : Entry) {v : Value}
    (hv : v.type = e.default.type → ∃ text, v.rendering? = some text) :
    Reports t (typedMutations e v) (s.setEntry e v).store (s.setEntry e v).events := by
  by_cases hnull : v = .null
  · subst hnull
    exact ⟨hs.of_eq rfl rfl, rfl⟩
  · rw [typedMutations_of_ne_null hnull]
    by_cases ht : v.type = e.default.type
    · obtain ⟨text, htext⟩ := hv ht
      rw [setEntry_of_type_eq s hnull ht, if_pos ht, Value.stored_eq_ok_iff.2 htext, htext]
      exact hs.write e.key text
    · rw [setEntry_of_type_ne s hnull ht, if_neg ht]
      exact hs.silent

theorem Follows.setAll (hs : s.Follows t) (ps : List (StoredKey × String)) :
    Reports t ((copied ps).map fun p => .write p.1 p.2) (s.setAll ps).store
      (s.setAll ps).events := by
  obtain ⟨result, hall, -⟩ := setAll_eq s ps
  rw [hall]
  exact hs.writeAll (copied ps)

theorem Follows.setOtherIfMissing (hs : s.Follows t) (key v : Value) :
    Reports t [] (s.setOtherIfMissing key v).store (s.setOtherIfMissing key v).events := by
  unfold Store.setOtherIfMissing
  split
  · split
    · exact hs.silent
    · next value k hk =>
      split
      · exact hs.silent
      · -- the tables have texts for keys, so that the check builds the index at most
        obtain ⟨rfl, hindex⟩ := hs
        refine ⟨⟨rfl, hindex.force.of_built rfl⟩, ?_⟩
        exact Index.warningTexts_force s.index s.tables
  · split <;> exact hs.silent

theorem Follows.removeOther (hs : s.Follows t) (key : Value) :
    Reports t [] (s.removeOther key).store (s.removeOther key).events := by
  have hdrop : ∀ k, (s.drop k).Follows t := by
    intro k
    unfold drop
    split
    · exact hs
    · exact hs.of_eq rfl rfl
  unfold Store.removeOther
  split
  · exact hs.silent
  · split
    · exact hs.silent
    · exact (hdrop _).silent

/-! ### Any call -/

/-- **One call warns about its writes.** -/
theorem Follows.perform (hs : s.Follows t) {past : History}
    (hp : ∀ key, s.contains key = present past key) {r : Request} (hr : r.Renders) :
    Reports t (r.mutations past) (s.perform r).store (s.perform r).events := by
  cases r with
  | get key =>
    cases key with
    | name key => exact (hs.afterGet key).silent
    | entry e => exact (hs.afterRead .string e).silent
    | other v hv => exact hs.silent
  | set key v =>
    cases key with
    | name key => exact hs.setRaw key v
    | entry e => exact hs.setEntry e hr
    | other k hk => exact hs.silent
  | setIfMissing key v =>
    cases key with
    | name key =>
      have hset := hs.setIfMissing key v
      rw [hp key] at hset
      exact hset
    | entry e => exact hs.setOtherIfMissing _ v
    | other k hk => exact hs.setOtherIfMissing _ v
  | setAll ps => exact hs.setAll ps
  | remove key =>
    cases key with
    | name key => exact ⟨hs.of_eq rfl rfl, rfl⟩
    | entry e => exact hs.removeOther _
    | other k hk => exact hs.removeOther _
  | read a e => exact (hs.afterRead a e).silent
  | contains key => cases key <;> exact hs.silent
  | size => exact hs.silent
  | pairs => exact hs.silent
  | copy => exact hs.silent
  | tables =>
    have htables : s.afterTables.Follows t := hs.of_eq rfl rfl
    exact htables.silent
  | reads => exact hs.silent

/-- The index agrees with the tables also after a write whose value has no text. -/
theorem Follows.store_perform (hs : s.Follows t) {past : History}
    (hp : ∀ key, s.contains key = present past key) (r : Request) :
    (s.perform r).store.Follows t := by
  by_cases hr : r.Renders
  · exact (hs.perform hp hr).follows
  · unfold Request.Renders at hr
    split at hr
    · next e v =>
      obtain ⟨ht, htext⟩ := Classical.not_imp.1 hr
      have hnone : v.rendering? = none := Option.eq_none_iff_forall_ne_some.2 fun text h =>
        htext ⟨text, h⟩
      have hnull : v ≠ .null := by
        rintro rfl
        exact nomatch hnone
      obtain ⟨fault, hfault⟩ := Value.exists_stored_error hnone
      change (s.setEntry e v).store.Follows t
      rw [setEntry_of_type_eq s hnull ht, hfault]
      exact (hs.note e.key).1
    · exact absurd trivial hr

theorem Follows.store_run (hs : s.Follows t) {past : History} (hp : s.textPairs = replay past)
    (rs : List Request) : (s.run rs).1.Follows t := by
  induction rs generalizing s past with
  | nil => exact hs
  | cons r rs ih =>
    exact ih (hs.store_perform (contains_eq_present hp) r) (textPairs_perform_replay hp r)

/-- The warnings of a run go on with those of the history. -/
theorem Reports.run {past : History} {es : List Event} (hr : Reports t past s es)
    (hs : s.textPairs = replay past) {rs : List Request} (h : ∀ r ∈ rs, r.Renders) :
    Reports t (historyFrom past rs) (s.run rs).1 (es ++ (s.run rs).2) := by
  -- what the history says of the warnings so far and of the keys goes along with the calls
  induction rs generalizing s past es with
  | nil => rw [run_nil, List.append_nil]; exact hr
  | cons r rs ih =>
    have hcall := hr.follows.perform (contains_eq_present hs) (h r List.mem_cons_self)
    have hrest := ih (hr.append hcall) (textPairs_perform_replay hs r) fun r' hr' =>
      h r' (List.mem_cons_of_mem r hr')
    rw [List.append_assoc] at hrest
    exact hrest

end Follows

theorem reports_create (t : Tables) (seed : Option (List (Value × Value))) :
    Reports t (seeding seed) (create t seed).1 (create t seed).2 := by
  cases seed with
  | none => exact (follows_fresh t).silent
  | some ps =>
    obtain ⟨hs, hwarn⟩ := (follows_fresh t).writeAll (startingPairs ps)
    have hcreate : create t (some ps) = (((fresh t).writeAll (startingPairs ps)).1,
        ((fresh t).writeAll (startingPairs ps)).2
          ++ [.seeded ((fresh t).writeAll (startingPairs ps)).1.size]) := by
      rw [← seedPairs_eq]
      rfl
    rw [hcreate]
    refine ⟨hs, ?_⟩
    rw [warningTexts_append, hwarn]
    exact List.append_nil _

/-- A store goes by its tables whatever calls it has had. -/
theorem follows_reached (t : Tables) (seed : Option (List (Value × Value)))
    (rs : List Request) : (reached t seed rs).Follows t :=
  (reports_create t seed).follows.store_run (textPairs_create t seed) rs

/-- Everything that is logged while a store is made and then called. -/
def logged (t : Tables) (seed : Option (List (Value × Value))) (rs : List Request) :
    List Event := (create t seed).2 ++ ((create t seed).1.run rs).2

/-- **A run warns about its writes, in their order**, and about nothing else: the events from
the making of a store on warn about the keys that its history writes, as the tables say. -/
theorem warnings_of_history (t : Tables) (seed : Option (List (Value × Value)))
    (rs : List Request) (h : ∀ r ∈ rs, r.Renders) :
    warningTexts (logged t seed rs)
      = ((history seed rs).filterMap Mutation.written?).filterMap t.warningText? :=
  ((reports_create t seed).run (textPairs_create t seed) h).warned

/-- Of two rows that replace a key the last is named, once for every write that takes place. -/
theorem warnings_of_replaced_twice :
    (∀ r ∈ [Request.setIfMissing (.name "old") (.text "2"),
        .set (.entry (.declared "old" (.int 0))) (.int 3), .remove (.name "old"),
        .set (.name "new") (.text "4")], r.Renders) ∧
      warningTexts
          (logged
            ⟨.ofList [("new", ⟨"old", "1", ""⟩), ("newer", ⟨"old", "2", ""⟩)],
              .ofList [("old", ⟨"old", "3", "Gone."⟩)]⟩
            (some [(.text "old", .text "1")])
            [.setIfMissing (.name "old") (.text "2"),
              .set (.entry (.declared "old" (.int 0))) (.int 3), .remove (.name "old"),
              .set (.name "new") (.text "4")])
        = List.replicate 2 ("The configuration key old has been deprecated as of 2 and may be " ++
            "removed in the future. Please use the new key newer instead.") := by
  have hrenders : ∀ r ∈ [Request.setIfMissing (.name "old") (.text "2"),
      .set (.entry (.declared "old" (.int 0))) (.int 3), .remove (.name "old"),
      .set (.name "new") (.text "4")], r.Renders := by
    have hthree : (Value.int 3).rendering? = some "3" := rfl
    simp [Request.Renders, hthree]
  refine ⟨hrenders, ?_⟩
  rw [warnings_of_history _ _ _ hrenders]
  rfl

end Store

end Settings
