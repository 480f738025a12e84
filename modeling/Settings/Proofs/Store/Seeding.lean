import Settings.Proofs.Properties.Loading
import Settings.Proofs.Store.Resolution

/-!
# The ways to fill a store

A store may be made with pairs to start from, or made empty and called for each pair, or made
empty and given the pairs of another store to copy.  Of the pairs to start from those count
that are texts, and each of them is checked for deprecation and written as any other pair is, so
that all three ways lead to the same store by the same warnings.  A store that is made from a
properties file is one that is made with the properties of the file.

## Main definitions

* `Store.textEntries` — the pairs of a map that are texts.
* `Store.answers` — what a store answers to calls.
* `Store.Alike` — two stores, with what has been logged so far, that nobody can tell apart.

## Main results

* `Store.run_writes`, `Store.perform_copy` — what the calls and the copy lead to.
* `Store.ofFile_of_load` — the store of a file that can be loaded.
* `Store.filled_alike` — **all ways to fill a store lead to the same store.**
-/

namespace Settings

namespace Store

/-! ### The pairs of a map -/

/-- The pairs of a map that are texts, in its order. -/
def textEntries (ps : List (Value × Value)) : List (String × String) :=
  ps.filterMap fun p => p.1.text?.bind fun key => p.2.text?.map fun value => (key, value)

/-- The calls that write pairs one after the other. -/
def writes (ps : List (String × String)) : List Request :=
  ps.map fun p => .set (.name p.1) (.text p.2)

/-- A map of texts as a map of values. -/
def valuePairs (m : OrderedMap String String) : List (Value × Value) :=
  m.toList.map fun p => (.text p.1, .text p.2)

theorem nodup_textEntries {ps : List (Value × Value)}
    (h : (ps.filterMap fun p => p.1.text?).Nodup) : ((textEntries ps).map Prod.fst).Nodup := by
  refine h.sublist ?_
  induction ps with
  | nil => exact List.Sublist.refl _
  | cons p ps ih =>
    have hrest := ih (h.sublist ((List.sublist_cons_self p ps).filterMap _))
    obtain ⟨key, value⟩ := p
    -- a key that is a text is lost if its value is none
    cases hk : key.text? with
    | none => simpa [textEntries, hk] using hrest
    | some k =>
      cases hv : value.text? with
      | none => simpa [textEntries, hk, hv] using hrest.cons k
      | some v => simpa [textEntries, hk, hv] using hrest

/-! ### What a caller sees -/

/-- What a store answers to calls, one after the other, each answer with what is logged. -/
def answers (s : Store) : List Request → List (Except Fault Answer × List Event)
  | [] => []
  | r :: rs => ((s.perform r).result, (s.perform r).events) :: (s.perform r).store.answers rs

/-- Two stores, each with what has been logged so far, that nobody can tell apart: neither by
their pairs, nor by the warnings so far, nor by whether the index of old keys has been built, nor
by what they answer to any calls from now on. -/
structure Alike (a b : Store × List Event) : Prop where
  /-- The pairs and their order are the same. -/
  pairs : a.1.toList = b.1.toList
  /-- The same warnings have been logged in the same order. -/
  warnings : warningTexts a.2 = warningTexts b.2
  /-- The index of one is built if that of the other is, and is the same. -/
  built : a.1.index.built = b.1.index.built
  /-- The same calls get the same answers and log the same events. -/
  answers : ∀ rs, a.1.answers rs = b.1.answers rs

theorem Alike.of_eq {s s' : Store} {es es' : List Event} (hs : s = s')
    (hes : warningTexts es = warningTexts es') : Alike (s, es) (s', es') := by
  subst hs
  exact ⟨rfl, hes, rfl, fun _ => rfl⟩

/-! ### The ways -/

/-- A store that is made with a map writes the texts of the map, and then counts its pairs. -/
theorem create_of_map (t : Tables) {ps : List (Value × Value)}
    (h : (ps.filterMap fun p => p.1.text?).Nodup) :
    create t (some ps) = (((fresh t).writeAll (textEntries ps)).1,
      ((fresh t).writeAll (textEntries ps)).2
        ++ [.seeded ((fresh t).writeAll (textEntries ps)).1.size]) := by
  rw [textEntries, ← seedPairs_of_nodup h]
  rfl

/-- Each of the calls that write pairs is done. -/
theorem answers_writes (s : Store) (ps : List (String × String)) :
    ∀ answer ∈ s.answers (writes ps), answer.1 = .ok .done := by
  induction ps generalizing s with
  | nil => exact fun answer h => absurd h List.not_mem_nil
  | cons p ps ih =>
    intro answer h
    rcases List.mem_cons.1 h with rfl | h
    · rfl
    · exact ih _ answer h

/-- **The calls lead to the store that is made with the pairs**, and warn alike. -/
theorem run_writes (t : Tables) {ps : List (Value × Value)}
    (h : (ps.filterMap fun p => p.1.text?).Nodup) :
    Alike ((fresh t).run (writes (textEntries ps))) (create t (some ps)) := by
  rw [create_of_map t h, writes, run_set_text]
  refine Alike.of_eq rfl ?_
  -- that the pairs have been counted is logged, but it is no warning
  rw [warningTexts_append]
  exact (List.append_nil _).symm

/-- **The copy leads to the store that is made with the pairs**, whatever the tables of the store
that is copied. -/
theorem perform_copy (t t' : Tables) {ps : List (Value × Value)}
    (h : (ps.filterMap fun p => p.1.text?).Nodup) :
    (fresh t).perform (.setAll (create t' (some ps)).1.toList)
      = ⟨.ok .done, ((fresh t).run (writes (textEntries ps))).1,
          ((fresh t).run (writes (textEntries ps))).2⟩ := by
  have hpairs : (create t' (some ps)).1.toList = (textEntries ps).map ofTextPair := by
    rw [create_of_map t' h]
    exact toList_writeAll_fresh t' (nodup_textEntries h)
  rw [hpairs, perform_setAll_ofTextPair, writes, run_set_text]

/-- The store of a file that can be loaded is made with the properties of the file. -/
theorem ofFile_of_load {files : Properties.Files} {here place path : Path}
    {found : OrderedMap String String} {events : List Event}
    (hplace : Properties.locate here here place = .ok path)
    (hload : Properties.load files path = (.ok found, events)) (t : Tables) :
    Store.ofFile files here place t
      = (.ok (create t (some (valuePairs found))).1,
          events ++ (create t (some (valuePairs found))).2) := by
  rw [Store.ofFile, hplace]
  dsimp only
  rw [hload]
  rfl

/-- **All ways to fill a store lead to the same store.**  Of a map the pairs of texts count.  To
make a store with the map, to write the pairs of texts one by one, and to copy another store
that is made with the map, be it under other tables, cannot be told apart, and neither can the
store of a file that can be loaded from one that is made with the properties of the file. -/
theorem filled_alike (t t' : Tables) (ps : List (Value × Value))
    (hmap : (ps.filterMap fun p => p.1.text?).Nodup) :
    let made := create t (some ps)
    let written := (fresh t).run (writes (textEntries ps))
    let copy := (fresh t).perform (.setAll (create t' (some ps)).1.toList)
    Alike written made ∧
      (∀ answer ∈ (fresh t).answers (writes (textEntries ps)), answer.1 = .ok .done) ∧
      Alike (copy.store, copy.events) made ∧ copy.result = .ok .done ∧
      ∀ files here place path found events, Properties.locate here here place = .ok path →
        Properties.load files path = (.ok found, events) →
        ∃ s more, Store.ofFile files here place t = (.ok s, events ++ more) ∧
          Alike (s, more) (create t (some (valuePairs found))) := by
  intro made written copy
  have hwritten : Alike written made := run_writes t hmap
  have hcopy : copy = ⟨.ok .done, written.1, written.2⟩ := perform_copy t t' hmap
  refine ⟨hwritten, answers_writes (fresh t) (textEntries ps), ?_, ?_, ?_⟩
  · rw [hcopy]
    exact hwritten
  · rw [hcopy]
  · intro files here place path found events hplace hload
    exact ⟨_, _, ofFile_of_load hplace hload t, Alike.of_eq rfl rfl⟩

/-- Neither a key nor a value that is no text is taken over, and the old key warns once. -/
theorem filled_alike_of_mixed :
    let t : Tables := ⟨.ofList [("new", ⟨"old", "1", ""⟩)], .empty⟩
    let ps : List (Value × Value) :=
      [(.text "old", .text "1"), (.int 5, .text "x"), (.text "k", .int 2), (.text "new", .text "")]
    (ps.filterMap fun p => p.1.text?).Nodup ∧
      Alike ((fresh t).run [.set (.name "old") (.text "1"), .set (.name "new") (.text "")])
        (create t (some ps)) ∧
      warningTexts (create t (some ps)).2 = ["The configuration key old has been deprecated as " ++
        "of 1 and may be removed in the future. Please use the new key new instead."] := by
  intro t ps
  have hmap : (ps.filterMap fun p => p.1.text?).Nodup := by decide
  obtain ⟨hwritten, -⟩ := filled_alike t ⟨.empty, .empty⟩ ps hmap
  exact ⟨hmap, hwritten, rfl⟩

end Store

end Settings
