import Settings.Proofs.Store.Effect

/-!
# The contents of a store

As long as all keys are texts, what a store shows of its pairs is fixed by its history:
the pairs in order, their number, the answer for each key, and a copy as a map.

## Main definitions

* `Store.Request.TextKeyed` — the call puts nothing but texts in the place of keys.
* `Store.AllText` — every key of the store is a text.

## Main results

* `Store.allText_perform` — calls with texts for keys keep all keys texts.
* `Store.contents_of_history` — **the history fixes what the store shows.**
-/

namespace Settings

open History

namespace Store

/-- A call that may put a key of its own into the store does so with a text. -/
def Request.TextKeyed : Request → Prop
  | .setIfMissing (.name _) _ => True
  | .setIfMissing _ _ => False
  | _ => True

/-- Every key of the store is a text. -/
def AllText (s : Store) : Prop := ∀ p ∈ s.toList, ∃ key, p.1 = .text key

/-- A pair of texts as a pair of a store. -/
def ofTextPair (p : String × String) : StoredKey × String := (.text p.1, p.2)

/-! ### Keys stay texts -/

theorem AllText.toList_eq {s : Store} (hs : s.AllText) :
    s.toList = s.textPairs.map ofTextPair := by
  have key : ∀ ps : List (StoredKey × String), (∀ p ∈ ps, ∃ key, p.1 = .text key) →
      ps = (ps.filterMap textPair?).map ofTextPair := by
    intro ps
    induction ps with
    | nil => intro _; rfl
    | cons p ps ih =>
      intro hps
      obtain ⟨k, v⟩ := p
      obtain ⟨t, ht⟩ := hps (k, v) List.mem_cons_self
      obtain rfl : k = .text t := ht
      have hrest := ih fun q hq => hps q (List.mem_cons_of_mem _ hq)
      have hstep : ((StoredKey.text t, v) :: ps).filterMap textPair?
          = (t, v) :: ps.filterMap textPair? := rfl
      rw [hstep, List.map_cons, ← hrest, ofTextPair]
  exact key s.toList hs

/-- A new store that pairs are written into has them, in their order. -/
theorem toList_writeAll_fresh (t : Tables) {ps : List (String × String)}
    (h : (ps.map Prod.fst).Nodup) : ((fresh t).writeAll ps).1.toList = ps.map ofTextPair := by
  have hkeys : ((ps.map ofTextPair).map Prod.fst).Nodup := by
    have htext : (ps.map ofTextPair).map Prod.fst = (ps.map Prod.fst).map StoredKey.text := by
      rw [List.map_map, List.map_map]
      rfl
    rw [htext]
    exact h.map fun _ _ heq => StoredKey.text.inj heq
  rw [toList, config_writeAll]
  exact OrderedMap.toList_insertAll .empty hkeys

/-- Pairs of texts are all written when they are copied. -/
theorem perform_setAll_ofTextPair (s : Store) (ps : List (String × String)) :
    s.perform (.setAll (ps.map ofTextPair))
      = ⟨.ok .done, (s.writeAll ps).1, (s.writeAll ps).2⟩ := by
  change ofChange (s.setAll (ps.map fun p => (.text p.1, p.2))) = _
  rw [setAll_text]
  rfl

theorem AllText.congr {s s' : Store} (hs : s.AllText) (h : s'.config = s.config) :
    s'.AllText := by
  unfold AllText toList at hs ⊢
  rw [h]
  exact hs

theorem AllText.put {s : Store} (hs : s.AllText) (key value : String) :
    (s.put key value).AllText := by
  intro p hp
  rcases mem_of_mem_insertPair hp with rfl | hp
  · exact ⟨key, rfl⟩
  · exact hs p hp

theorem AllText.write {s : Store} (hs : s.AllText) (key value : String) :
    (s.write key value).1.AllText := hs.put key value

theorem AllText.writeAll {s : Store} (hs : s.AllText) (ps : List (String × String)) :
    (s.writeAll ps).1.AllText := by
  induction ps generalizing s with
  | nil => exact hs
  | cons p ps ih => exact ih (hs.write p.1 p.2)

theorem AllText.erase {s s' : Store} (hs : s.AllText) {k : StoredKey}
    (h : s'.config = s.config.erase k) : s'.AllText := by
  intro p hp
  unfold toList at hp
  rw [h, OrderedMap.toList_erase] at hp
  exact hs p (List.mem_filter.1 hp).1

theorem AllText.setRaw {s : Store} (hs : s.AllText) (key : String) (v : Value) :
    (s.setRaw key v).store.AllText := by
  cases hv : v.text? with
  | none => rw [setRaw_of_not_text s key hv]; exact hs
  | some value =>
    obtain rfl : v = .text value := Value.eq_text_of_text? hv
    exact hs.write key value

theorem AllText.setIfMissing {s : Store} (hs : s.AllText) (key : String) (v : Value) :
    (s.setIfMissing key v).store.AllText := by
  cases hv : v.text? with
  | none => rw [setIfMissing_of_not_text s key hv]; exact hs
  | some value =>
    obtain rfl : v = .text value := Value.eq_text_of_text? hv
    cases hc : s.contains key with
    | true => rw [setIfMissing_of_contains hc]; exact hs
    | false => rw [setIfMissing_of_not_contains hc]; exact hs.put key value

theorem AllText.setEntry {s : Store} (hs : s.AllText) (e : Entry) (v : Value) :
    (s.setEntry e v).store.AllText := by
  by_cases hv : v = .null
  · subst hv
    exact hs.erase (config_remove s e.key)
  · by_cases ht : v.type = e.default.type
    · rw [setEntry_of_type_eq s hv ht]
      cases v.stored with
      | ok text => exact hs.write e.key text
      | error fault => exact hs.congr (config_note s e.key)
    · rw [setEntry_of_type_ne s hv ht]
      exact hs

theorem AllText.removeOther {s : Store} (hs : s.AllText) (key : Value) :
    (s.removeOther key).store.AllText := by
  unfold Store.removeOther
  split
  · exact hs
  · split
    · exact hs
    · next k hk =>
      change (s.drop k).AllText
      unfold drop
      split
      · exact hs
      · exact hs.erase rfl

/-- **Calls with texts for keys keep all keys texts.** -/
theorem allText_perform {s : Store} (hs : s.AllText) {r : Request} (hr : r.TextKeyed) :
    (s.perform r).store.AllText := by
  cases r with
  | get key =>
    cases key with
    | name key => exact hs.congr (config_afterGet s key)
    | entry e => exact hs.congr (config_afterRead s .string e)
    | other v hv => exact hs
  | set key v =>
    cases key with
    | name key => exact hs.setRaw key v
    | entry e => exact hs.setEntry e v
    | other k hk => exact hs
  | setIfMissing key v =>
    cases key with
    | name key => exact hs.setIfMissing key v
    | entry e => exact hr.elim
    | other k hk => exact hr.elim
  | setAll ps =>
    obtain ⟨result, hall, -⟩ := setAll_eq s ps
    change (s.setAll ps).store.AllText
    rw [hall]
    exact hs.writeAll (copied ps)
  | remove key =>
    cases key with
    | name key => exact hs.erase (config_remove s key)
    | entry e => exact hs.removeOther _
    | other k hk => exact hs.removeOther _
  | read a e => exact hs.congr (config_afterRead s a e)
  | contains key => cases key <;> exact hs
  | size => exact hs
  | pairs => exact hs
  | copy => exact hs
  | tables => exact hs.congr rfl
  | reads => exact hs

theorem allText_run {s : Store} (hs : s.AllText) {rs : List Request}
    (h : ∀ r ∈ rs, r.TextKeyed) : (s.run rs).1.AllText := by
  induction rs generalizing s with
  | nil => exact hs
  | cons r rs ih =>
    have hstep := allText_perform hs (h r List.mem_cons_self)
    exact ih hstep fun r' hr' => h r' (List.mem_cons_of_mem r hr')

theorem allText_create (t : Tables) (seed : Option (List (Value × Value))) :
    (create t seed).1.AllText := by
  have hfresh : (fresh t).AllText := fun p hp => absurd hp List.not_mem_nil
  cases seed with
  | none => exact hfresh
  | some ps => exact hfresh.writeAll (seedPairs ps)

/-! ### What the store shows -/

/-- **The history fixes what the store shows.**  Some pairs, and no others, are what the
history leaves; the store shows them in order, counts them, has a value for their keys and
for no others, and copies them. -/
theorem contents_of_history (t : Tables) (seed : Option (List (Value × Value)))
    (rs : List Request) (h : ∀ r ∈ rs, r.TextKeyed) :
    ∃ ps : List (String × String),
      Leaves (history seed rs) ps ∧ (∀ qs, Leaves (history seed rs) qs → qs = ps) ∧
      ((reached t seed rs).perform .pairs).result = .ok (.pairs (ps.map ofTextPair)) ∧
      ((reached t seed rs).perform .size).result = .ok (.scalar (.int ps.length)) ∧
      (∀ key, ((reached t seed rs).perform (.contains (.name key))).result
        = .ok (.scalar (.bool (decide (key ∈ ps.map Prod.fst))))) ∧
      ((reached t seed rs).perform .copy).result = .ok (.pairs (ps.map ofTextPair)) := by
  have hall : (reached t seed rs).AllText := allText_run (allText_create t seed) h
  have hleaves : Leaves (history seed rs) (reached t seed rs).textPairs := by
    rw [textPairs_reached]
    exact leaves_replay _
  -- no pair is lost from sight: the pairs with texts for keys are all there are
  have hlist := hall.toList_eq
  refine ⟨(reached t seed rs).textPairs, hleaves, fun qs hqs => hqs.unique hleaves,
    ?_, ?_, ?_, ?_⟩
  · change Except.ok (Answer.pairs (reached t seed rs).toList) = _
    rw [hlist]
  · have hsize : (reached t seed rs).size = (reached t seed rs).textPairs.length := by
      change (reached t seed rs).toList.length = _
      rw [hlist, List.length_map]
    change Except.ok (Answer.scalar (.int (reached t seed rs).size)) = _
    rw [hsize]
  · intro key
    have hmem := contains_iff_mem_textPairs (reached t seed rs) key
    change Except.ok (Answer.scalar (.bool ((reached t seed rs).contains key))) = _
    rw [Bool.eq_iff_iff.2 (hmem.trans decide_eq_true_iff.symm)]
  · change Except.ok (Answer.pairs (reached t seed rs).copy.toList) = _
    rw [copy, toList, OrderedMap.ofList_toList]
    exact congrArg (fun ps => Except.ok (Answer.pairs ps)) hlist

/-- A key that is removed and filled again goes to the end, with its new value. -/
theorem contents_of_refilled_key :
    (∀ r ∈ [Request.remove (.name "a"), .setIfMissing (.name "a") (.text "3"),
        .setIfMissing (.name "b") (.text "4")], r.TextKeyed) ∧
      ((reached ⟨.empty, .empty⟩ (some [(.text "a", .text "1"), (.text "b", .text "2")])
        [.remove (.name "a"), .setIfMissing (.name "a") (.text "3"),
          .setIfMissing (.name "b") (.text "4")]).perform .pairs).result
        = .ok (.pairs [(.text "b", "2"), (.text "a", "3")]) := by
  have hkeys : ∀ r ∈ [Request.remove (.name "a"), .setIfMissing (.name "a") (.text "3"),
      .setIfMissing (.name "b") (.text "4")], r.TextKeyed := by
    simp [Request.TextKeyed]
  obtain ⟨ps, -, honly, hpairs, -⟩ := contents_of_history ⟨.empty, .empty⟩
    (some [(.text "a", .text "1"), (.text "b", .text "2")]) _ hkeys
  -- the replay computes the pairs that the history leaves
  have hps : [("b", "2"), ("a", "3")] = ps := honly _ (leaves_replay _)
  rw [hpairs, ← hps]
  exact ⟨hkeys, rfl⟩

end Store

end Settings
