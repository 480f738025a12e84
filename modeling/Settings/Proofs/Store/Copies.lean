import Settings.Proofs.OrderedMap
import Settings.Proofs.Store.Contents
import Settings.Session

/-!
# Copies of one store into another

To copy a store into another one writes its pairs one after the other, as they stand when the
copy begins.  As long as all keys are texts each of them can be written, so that the pairs of the
two stores are put together as two maps are: keys that both have get the values of the copied
store in their places, and its other pairs follow.  What deprecation tables the stores have makes
no difference to the pairs.

## Main definitions

* `Store.Reachable` — a store that has been made and called, with texts for keys.
* `Store.filledFrom` — a store after another one has been copied into it.

## Main results

* `Store.result_setAll`, `Store.config_filledFrom` — a copy is done, and puts the maps together.
* `Store.Reachable.filledFrom` — stores that are copied into stay reachable.
* `Session.perform_copy` — a copy in a session changes the store it is for and no other.
* `Store.copy_laws` — **the laws of copies.**
-/

namespace Settings

namespace Store

/-- The store has been made and then called, with texts in the place of keys. -/
def Reachable (s : Store) : Prop :=
  ∃ t seed rs, (∀ r ∈ rs, Request.TextKeyed r) ∧ s = reached t seed rs

/-- The first store after the pairs of the second have been copied into it. -/
def filledFrom (s other : Store) : Store := (s.perform (.setAll other.toList)).store

theorem Reachable.allText {s : Store} (h : s.Reachable) : s.AllText := by
  obtain ⟨t, seed, rs, hrs, rfl⟩ := h
  exact allText_run (allText_create t seed) hrs

/-! ### One copy -/

section Copy

variable {other : Store}

/-- A copy of texts writes all of them. -/
theorem perform_setAll (s : Store) (h : other.AllText) :
    s.perform (.setAll other.toList) = ⟨.ok .done, (s.writeAll other.textPairs).1,
      (s.writeAll other.textPairs).2⟩ := by
  rw [h.toList_eq, perform_setAll_ofTextPair]

/-- A copy of texts is done. -/
theorem result_setAll (s : Store) (h : other.AllText) :
    (s.perform (.setAll other.toList)).result = .ok .done := by
  rw [perform_setAll s h]

/-- The pairs are put together as two maps are. -/
theorem config_filledFrom (s : Store) (h : other.AllText) :
    (s.filledFrom other).config = s.config.update other.config := by
  have hpairs : (other.textPairs.map fun p => (StoredKey.text p.1, p.2)) = other.config.toList :=
    h.toList_eq.symm
  rw [filledFrom, perform_setAll s h, config_writeAll, hpairs, OrderedMap.update]

theorem toList_filledFrom (s : Store) (h : other.AllText) :
    (s.filledFrom other).toList
      = (s.toList.map fun p => (p.1, (other.toList.lookup p.1).getD p.2))
        ++ other.toList.filter (·.1 ∉ s.toList.map Prod.fst) := by
  rw [toList, config_filledFrom s h]
  exact OrderedMap.toList_update s.config other.config

theorem toList_congr {s s' : Store} (h : s.config = s'.config) : s.toList = s'.toList :=
  congrArg OrderedMap.toList h

end Copy

/-! ### Stores that are copied into -/

theorem run_append (s : Store) (rs rs' : List Request) :
    (s.run (rs ++ rs')).1 = ((s.run rs).1.run rs').1 := by
  induction rs generalizing s with
  | nil => rfl
  | cons r rs ih => exact ih (s.perform r).store

theorem Reachable.filledFrom {s : Store} (h : s.Reachable) (other : Store) :
    (s.filledFrom other).Reachable := by
  obtain ⟨t, seed, rs, hrs, rfl⟩ := h
  refine ⟨t, seed, rs ++ [.setAll other.toList], ?_, ?_⟩
  · intro r hr
    rcases List.mem_append.1 hr with hr | hr
    · exact hrs r hr
    · rw [List.mem_singleton.1 hr]
      exact trivial
  · exact (run_append (create t seed).1 rs [.setAll other.toList]).symm

end Store

namespace Session

/-- A session after some steps. -/
def after (s : Session) (steps : List Step) : Session :=
  steps.foldl (fun s step => (s.perform step).2) s

section Names

variable {s : Session} {x y z : String} {a b c : Store}

/-- A copy in a session changes the store it is for and no other. -/
theorem perform_copy (ha : s.stores.find? x = some a) (hb : s.stores.find? y = some b) :
    (s.perform (.copy x y)).1.result
        = (a.perform (.setAll b.toList)).result.map Answer.store ∧
      ∀ n, (s.perform (.copy x y)).2.stores.find? n
        = if n = x then some (a.filledFrom b) else s.stores.find? n := by
  have hcall : s.perform (.copy x y) = s.call x (.setAll b.toList) := by
    rw [perform, hb]
  rw [hcall, call, ha]
  exact ⟨rfl, fun n => OrderedMap.find?_insert s.stores x n _⟩

/-- A copy of a store with texts for keys is done, and the store that is copied keeps its pairs,
be it the one that is written. -/
theorem copy_done (ha : s.stores.find? x = some a) (hb : s.stores.find? y = some b)
    (ht : b.AllText) :
    (s.perform (.copy x y)).1.result = .ok (.store .done) ∧
      (s.after [.copy x y]).stores.find? x = some (a.filledFrom b) ∧
      (∀ n, n ≠ x → (s.after [.copy x y]).stores.find? n = s.stores.find? n) ∧
      ∃ b', (s.after [.copy x y]).stores.find? y = some b' ∧ b'.config = b.config := by
  obtain ⟨hresult, hstores⟩ := perform_copy ha hb
  have hx := hstores x
  rw [if_pos rfl] at hx
  refine ⟨?_, hx, fun n hn => (hstores n).trans (if_neg hn), ?_⟩
  · rw [hresult, Store.result_setAll a ht]
    rfl
  · by_cases hsame : y = x
    · -- the store that is copied is the one that is written
      subst hsame
      obtain rfl : a = b := Option.some.inj (ha.symm.trans hb)
      refine ⟨a.filledFrom a, hx, ?_⟩
      rw [Store.config_filledFrom a ht, OrderedMap.update_self]
    · exact ⟨b, ((hstores y).trans (if_neg hsame)).trans hb, rfl⟩

theorem pairsOf_eq {a' : Store} (ha : s.stores.find? x = some a') (h : a'.config = a.config) :
    s.pairsOf x = some a.toList := by
  rw [pairsOf, ha, Option.map_some, Store.toList_congr h]

/-- Two copies into a store, of which the second is of another store. -/
theorem pairsOf_copy_copy (ha : s.stores.find? x = some a) (hb : s.stores.find? y = some b)
    (hc : s.stores.find? z = some c) (htb : b.AllText) (htc : c.AllText) (hz : z ≠ x) :
    (s.after [.copy x y, .copy x z]).pairsOf x = some ((a.filledFrom b).filledFrom c).toList := by
  obtain ⟨-, hx, hothers, -⟩ := copy_done ha hb htb
  have hc' : (s.after [.copy x y]).stores.find? z = some c := (hothers z hz).trans hc
  obtain ⟨-, hx', -, -⟩ := copy_done hx hc' htc
  exact pairsOf_eq hx' rfl

/-- A second copy of the same store, or of the store that has been written, changes nothing. -/
theorem pairsOf_copy_back (ha : s.stores.find? x = some a) (hb : s.stores.find? y = some b)
    (hra : a.Reachable) (htb : b.AllText) (hz : z = x ∨ z = y) :
    (s.after [.copy x y, .copy x z]).pairsOf x = some (a.filledFrom b).toList := by
  obtain ⟨-, hx, -, b', hy, hconfig⟩ := copy_done ha hb htb
  rcases hz with rfl | rfl
  · have ht : (a.filledFrom b).AllText := (hra.filledFrom b).allText
    obtain ⟨-, hx', -, -⟩ := copy_done hx hx ht
    refine pairsOf_eq hx' ?_
    rw [Store.config_filledFrom _ ht, OrderedMap.update_self]
  · have ht : b'.AllText := htb.congr hconfig
    obtain ⟨-, hx', -, -⟩ := copy_done hx hy ht
    refine pairsOf_eq hx' ?_
    rw [Store.config_filledFrom _ ht, hconfig, Store.config_filledFrom a htb,
      OrderedMap.update_update_self]

/-- A copy of a store into which a third one has just been copied. -/
theorem pairsOf_nested (ha : s.stores.find? x = some a) (hb : s.stores.find? y = some b)
    (hc : s.stores.find? z = some c) (hrb : b.Reachable) (htc : c.AllText) :
    (s.after [.copy y z, .copy x y]).pairsOf x
      = some (a.filledFrom (b.filledFrom c)).toList := by
  obtain ⟨-, hy, hothers, -⟩ := copy_done hb hc htc
  have ht : (b.filledFrom c).AllText := (hrb.filledFrom c).allText
  by_cases hsame : x = y
  · -- the store that is written at last has been written already, and is copied into itself
    subst hsame
    obtain rfl : a = b := Option.some.inj (ha.symm.trans hb)
    obtain ⟨-, hx', -, -⟩ := copy_done hy hy ht
    refine pairsOf_eq hx' ?_
    rw [Store.config_filledFrom _ ht, Store.config_filledFrom _ ht, OrderedMap.update_self,
      Store.config_filledFrom a htc, ← OrderedMap.update_assoc, OrderedMap.update_self]
  · have ha' : (s.after [.copy y z]).stores.find? x = some a := (hothers x hsame).trans ha
    obtain ⟨-, hx', -, -⟩ := copy_done ha' hy ht
    exact pairsOf_eq hx' rfl

end Names

end Session

namespace Store

/-- **The laws of copies.**  Let three stores be reachable, under any tables.  A copy of the second
into the first is done; it leaves the pairs of the first, in which the keys of the second have its
values, and then the pairs of the second whose keys are new, in its order.  In a session nothing
else is changed, and the second store keeps its pairs, be it the first itself.  To copy the same
store once more changes nothing, nor does a copy of a store into itself or of one without pairs.
And to copy the second store and then the third leaves the same pairs as to copy the third into
the second first, even if two of them are one store, as long as the third is not the first; if it
is, the pairs are the same just if the first and the second have no key with different values. -/
theorem copy_laws {a b c : Store} (ha : a.Reachable) (hb : b.Reachable) (hc : c.Reachable) :
    (a.perform (.setAll b.toList)).result = .ok .done ∧ (a.filledFrom b).Reachable ∧
      (a.filledFrom b).toList
        = (a.toList.map fun p => (p.1, (b.toList.lookup p.1).getD p.2))
          ++ b.toList.filter (·.1 ∉ a.toList.map Prod.fst) ∧
      (∀ (s : Session) (name source : String), s.stores.find? name = some a →
        s.stores.find? source = some b →
        let after := s.perform (.copy name source)
        after.1.result = .ok (.store .done) ∧
          after.2.stores.find? name = some (a.filledFrom b) ∧
          (after.2.stores.find? source).map Store.toList = some b.toList ∧
          (∀ n, n ≠ name → after.2.stores.find? n = s.stores.find? n) ∧
          (after.2.perform (.copy name source)).2.pairsOf name = after.2.pairsOf name) ∧
      ((a.filledFrom b).filledFrom b).toList = (a.filledFrom b).toList ∧
      (a.filledFrom a).toList = a.toList ∧
      (b.toList = [] → (a.filledFrom b).toList = a.toList) ∧
      ∀ (s : Session) (x y z : String), s.stores.find? x = some a → s.stores.find? y = some b →
        s.stores.find? z = some c →
        let left := s.after [.copy x y, .copy x z]
        let right := s.after [.copy y z, .copy x y]
        right.pairsOf x = some (a.filledFrom (b.filledFrom c)).toList ∧
          (z ≠ x → left.pairsOf x = right.pairsOf x) ∧
          (z = x → (left.pairsOf x = right.pairsOf x ↔
            ∀ p ∈ a.toList, ∀ q ∈ b.toList, p.1 = q.1 → p.2 = q.2)) := by
  have hself : (a.filledFrom a).toList = a.toList := by
    refine toList_congr ?_
    rw [config_filledFrom a ha.allText, OrderedMap.update_self]
  refine ⟨result_setAll a hb.allText, ha.filledFrom b, toList_filledFrom a hb.allText, ?_, ?_,
    hself, ?_, ?_⟩
  · intro s name source hname hsource after
    obtain ⟨hresult, hstore, hothers, b', hkept, hconfig⟩ :=
      Session.copy_done hname hsource hb.allText
    refine ⟨hresult, hstore, ?_, hothers, ?_⟩
    · change (after.2.stores.find? source) = some b' at hkept
      rw [hkept, Option.map_some, toList_congr hconfig]
    · have hagain := Session.pairsOf_copy_back hname hsource ha hb.allText (.inr rfl)
      exact hagain.trans (Session.pairsOf_eq hstore rfl).symm
  · refine toList_congr ?_
    rw [config_filledFrom _ hb.allText, config_filledFrom a hb.allText,
      OrderedMap.update_update_self]
  · intro hempty
    rw [toList_filledFrom a hb.allText, hempty]
    simp
  · intro s x y z hx hy hz left right
    have hright : right.pairsOf x = some (a.filledFrom (b.filledFrom c)).toList :=
      Session.pairsOf_nested hx hy hz hb hc.allText
    have hnested : (a.filledFrom (b.filledFrom c)).config
        = (a.config.update b.config).update c.config := by
      rw [config_filledFrom a (hb.filledFrom c).allText, config_filledFrom b hc.allText,
        OrderedMap.update_assoc]
    refine ⟨hright, fun hne => ?_, fun heq => ?_⟩
    · rw [hright]
      refine (Session.pairsOf_copy_copy hx hy hz hb.allText hc.allText hne).trans ?_
      refine congrArg some (toList_congr ?_)
      rw [hnested, config_filledFrom _ hc.allText, config_filledFrom a hb.allText]
    · subst heq
      obtain rfl : a = c := Option.some.inj (hx.symm.trans hz)
      have hleft : left.pairsOf z = some (a.filledFrom b).toList :=
        Session.pairsOf_copy_back hx hy ha hb.allText (.inl rfl)
      have hmaps : (a.filledFrom b).toList = (a.filledFrom (b.filledFrom a)).toList
          ↔ (a.config.update b.config).update a.config = a.config.update b.config := by
        rw [toList, toList, ← OrderedMap.ext_iff, hnested, config_filledFrom a hb.allText]
        exact eq_comm
      rw [hleft, hright, Option.some.injEq, hmaps]
      exact OrderedMap.update_update_left_iff a.config b.config

/-- A session with three stores, with keys that two or all three of them have. -/
theorem copy_laws_of_shared_keys :
    let made := fun ps : List (Value × Value) => reached ⟨.empty, .empty⟩ (some ps) []
    let a := made [(.text "x", .text "1"), (.text "y", .text "2")]
    let b := made [(.text "z", .text "3"), (.text "y", .text "4")]
    let c := made [(.text "w", .text "5"), (.text "z", .text "6"), (.text "x", .text "7")]
    let s : Session := ⟨fun _ => none, ⟨.root, []⟩, .ofList [("a", a), ("b", b), ("c", c)], .empty⟩
    (a.Reachable ∧ b.Reachable ∧ c.Reachable) ∧
      (s.stores.find? "a" = some a ∧ s.stores.find? "b" = some b ∧ s.stores.find? "c" = some c) ∧
      (a.filledFrom b).toList = [(.text "x", "1"), (.text "y", "4"), (.text "z", "3")] ∧
      (s.after [.copy "b" "c", .copy "a" "b"]).pairsOf "a"
        = some [(.text "x", "7"), (.text "y", "4"), (.text "z", "6"), (.text "w", "5")] ∧
      (s.after [.copy "a" "b", .copy "a" "c"]).pairsOf "a"
        = some [(.text "x", "7"), (.text "y", "4"), (.text "z", "6"), (.text "w", "5")] := by
  intro made a b c s
  have hmade : ∀ ps, (made ps).Reachable := fun ps =>
    ⟨⟨.empty, .empty⟩, some ps, [], (by simp), rfl⟩
  obtain ⟨-, -, hpairs, -, -, -, -, hassoc⟩ := copy_laws (hmade _ : a.Reachable)
    (hmade _ : b.Reachable) (hmade _ : c.Reachable)
  obtain ⟨hright, hleft, -⟩ := hassoc s "a" "b" "c" rfl rfl rfl
  exact ⟨⟨hmade _, hmade _, hmade _⟩, ⟨rfl, rfl, rfl⟩, hpairs.trans rfl, hright.trans rfl,
    (hleft (by decide)).trans (hright.trans rfl)⟩

/-- Two stores with one key and different values: if the second is copied into the first and then
the first into itself, the value of the second stays; if the first is copied into the second and
then the second into the first, that of the first. -/
theorem copy_back_differs :
    let made := fun v : String =>
      reached ⟨.empty, .empty⟩ (some [(.text "x", .text v)]) []
    let s : Session :=
      ⟨fun _ => none, ⟨.root, []⟩, .ofList [("a", made "1"), ("b", made "2")], .empty⟩
    ((made "1").Reachable ∧ (made "2").Reachable) ∧
      (s.after [.copy "a" "b", .copy "a" "a"]).pairsOf "a" = some [(.text "x", "2")] ∧
      (s.after [.copy "b" "a", .copy "a" "b"]).pairsOf "a" = some [(.text "x", "1")] ∧
      (s.after [.copy "a" "b", .copy "a" "a"]).pairsOf "a"
        ≠ (s.after [.copy "b" "a", .copy "a" "b"]).pairsOf "a" := by
  intro made s
  have hmade : ∀ v, (made v).Reachable := fun v =>
    ⟨⟨.empty, .empty⟩, some [(.text "x", .text v)], [], (by simp), rfl⟩
  have hleft : (s.after [.copy "a" "b", .copy "a" "a"]).pairsOf "a" = some [(.text "x", "2")] := rfl
  have hright : (s.after [.copy "b" "a", .copy "a" "b"]).pairsOf "a" = some [(.text "x", "1")] := rfl
  refine ⟨⟨hmade _, hmade _⟩, hleft, hright, ?_⟩
  rw [hleft, hright]
  decide

end Store

end Settings
