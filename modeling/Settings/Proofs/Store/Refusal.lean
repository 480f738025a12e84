import Mathlib
import Settings.Proofs.Store.Warnings

/-!
# Calls that fail

A call that fails leaves the pairs as they are and warns about nothing, with two
exceptions.  A typed write checks its key for deprecation before it turns its value into
text, so that an integer that is too long to be written has been warned about when the
write fails.  A copy of another store writes pair by pair, so that what stands before a
pair that cannot be written has been written when the copy fails.

## Main definitions

* `Outcome.Silent` — the pairs are as they were and there is no warning.
* `Store.Request.Leaks` — the two exceptions, where they show.

## Main results

* `Store.setEntry_of_error`, `Store.setAll_of_error` — what the exceptions leave behind.
* `Store.silent_iff_of_error` — **a call that fails is silent unless it leaks.**
-/

namespace Settings

open Number History

/-- The call leaves the pairs as they are and warns about nothing. -/
structure Outcome.Silent {α : Type} (o : Outcome α) (s : Store) : Prop where
  /-- The pairs and their order are the same. -/
  pairs : o.store.toList = s.toList
  /-- No warning is logged. -/
  warnings : warningTexts o.events = []

theorem Outcome.Silent.ofChange {o : Outcome Unit} {s : Store} (h : o.Silent s) :
    (Store.ofChange o).Silent s := ⟨h.pairs, h.warnings⟩

namespace Store

variable {s : Store} {f : Fault}

theorem ofChange_eq_error {o : Outcome Unit} (h : (ofChange o).result = .error f) :
    o.result = .error f := by
  cases hr : o.result with
  | ok u =>
    change o.result.map _ = _ at h
    rw [hr] at h
    exact nomatch h
  | error f' =>
    change o.result.map _ = _ at h
    rw [hr] at h
    exact congrArg Except.error (Except.error.inj h)

theorem silent_refl {α : Type} (s : Store) (result : Except Fault α) :
    (Outcome.mk result s []).Silent s := ⟨rfl, rfl⟩

/-! ### Calls that write one pair -/

theorem silent_setRaw {key : String} {v : Value} (h : (s.setRaw key v).result = .error f) :
    (s.setRaw key v).Silent s := by
  cases hv : v.text? with
  | none => rw [setRaw_of_not_text s key hv]; exact silent_refl s _
  | some value =>
    obtain rfl : v = .text value := Value.eq_text_of_text? hv
    exact nomatch h

theorem silent_setIfMissing {key : String} {v : Value}
    (h : (s.setIfMissing key v).result = .error f) : (s.setIfMissing key v).Silent s := by
  cases hv : v.text? with
  | none => rw [setIfMissing_of_not_text s key hv]; exact silent_refl s _
  | some value =>
    obtain rfl : v = .text value := Value.eq_text_of_text? hv
    cases hc : s.contains key with
    | true => rw [setIfMissing_of_contains hc] at h; exact nomatch h
    | false => rw [setIfMissing_of_not_contains hc] at h; exact nomatch h

theorem silent_setOtherIfMissing {key v : Value}
    (h : (s.setOtherIfMissing key v).result = .error f) :
    (s.setOtherIfMissing key v).Silent s := by
  unfold setOtherIfMissing at h ⊢
  split
  · split
    · exact silent_refl s _
    · next k hk =>
      -- a text under a key that a map can have is not refused
      dsimp only at h
      rw [hk] at h
      dsimp only at h
      split at h <;> exact nomatch h
  · split <;> exact silent_refl s _

theorem silent_removeOther {key : Value} (h : (s.removeOther key).result = .error f) :
    (s.removeOther key).Silent s := by
  unfold removeOther at h ⊢
  split at h
  · exact nomatch h
  · next hsize =>
    rw [if_neg hsize]
    split at h
    · exact silent_refl s _
    · exact nomatch h

/-- **A typed write that fails** has changed no pair, but it has warned about its key if the
value is of the right type. -/
theorem setEntry_of_error {t : Tables} (hs : s.Follows t) {e : Entry} {v : Value}
    (h : (s.setEntry e v).result = .error f) :
    (s.setEntry e v).store.toList = s.toList ∧
      warningTexts (s.setEntry e v).events
        = if v.type = e.default.type then (t.warningText? e.key).toList else [] := by
  have hnull : v ≠ .null := by
    rintro rfl
    exact nomatch h
  by_cases ht : v.type = e.default.type
  · rw [setEntry_of_type_eq s hnull ht] at h ⊢
    rw [if_pos ht]
    cases hv : v.stored with
    | ok text => rw [hv] at h; exact nomatch h
    | error fault =>
      -- the key has been checked already when the value turns out to have no text
      exact ⟨rfl, (hs.note e.key).2⟩
  · rw [setEntry_of_type_ne s hnull ht, if_neg ht]
    exact ⟨rfl, rfl⟩

/-! ### Copies of another store -/

/-- Where not every key can be written, what is copied ends at the first that cannot. -/
theorem exists_split_copied {ps : List (StoredKey × String)}
    (h : ¬ ∀ p ∈ ps, (target? p.1).isSome = true) :
    ∃ done p rest, ps = done ++ p :: rest ∧ target? p.1 = none ∧
      (∀ q ∈ done, (target? q.1).isSome = true) ∧ copied ps = copied done := by
  induction ps with
  | nil => exact absurd (fun p hp => absurd hp List.not_mem_nil) h
  | cons p ps ih =>
    cases ht : target? p.1 with
    | none => exact ⟨[], p, ps, rfl, ht, by simp, by simp only [copied, ht]⟩
    | some key =>
      have hp : (target? p.1).isSome = true := by rw [ht]; rfl
      have hrest : ¬ ∀ q ∈ ps, (target? q.1).isSome = true := fun hall =>
        h (List.forall_mem_cons.2 ⟨hp, hall⟩)
      obtain ⟨done, q, rest, rfl, hq, hdone, hcopied⟩ := ih hrest
      refine ⟨p :: done, q, rest, rfl, hq, List.forall_mem_cons.2 ⟨hp, hdone⟩, ?_⟩
      simp only [copied, ht, hcopied]

/-- **A copy that fails** ends at a pair whose key cannot be written, and leaves what a copy
of the pairs before it leaves. -/
theorem setAll_of_error {ps : List (StoredKey × String)}
    (h : (s.setAll ps).result = .error f) :
    ∃ done p rest, ps = done ++ p :: rest ∧ target? p.1 = none ∧
      (s.setAll done).result = .ok () ∧ (s.setAll ps).store = (s.setAll done).store ∧
      (s.setAll ps).events = (s.setAll done).events := by
  obtain ⟨result, hall, hiff⟩ := setAll_eq s ps
  have hsome : ¬ ∀ p ∈ ps, (target? p.1).isSome = true := by
    intro hsome
    rw [hall, hiff.2 hsome] at h
    exact nomatch h
  -- what is copied is the same with and without the pairs from the failing one on
  obtain ⟨done, p, rest, hps, hp, hdone, hcopied⟩ := exists_split_copied hsome
  obtain ⟨result', hall', hiff'⟩ := setAll_eq s done
  refine ⟨done, p, rest, hps, hp, ?_, ?_, ?_⟩
  · rw [hall']
    exact hiff'.2 hdone
  · rw [hall, hall', hcopied]
  · rw [hall, hall', hcopied]

theorem getLast?_filter_text (ps : List (String × String)) (key : String) :
    ((ps.map fun p => (StoredKey.text p.1, p.2)).filter (·.1 == .text key)).getLast?
      = ((ps.filter (·.1 == key)).getLast?).map fun p => (.text p.1, p.2) := by
  have hsame : ((fun q : StoredKey × String => q.1 == .text key) ∘
      fun p : String × String => (StoredKey.text p.1, p.2)) = fun p => p.1 == key := by
    funext p
    simp
  rw [List.filter_map, hsame, List.getLast?_map]

/-- A copy leaves the pairs as they are if the last one of every key is there already. -/
theorem toList_setAll_eq_iff (s : Store) (ps : List (StoredKey × String)) :
    (s.setAll ps).store.toList = s.toList ↔
      ∀ p, ((copied ps).filter (·.1 == p.1)).getLast? = some p →
        s.config.find? (.text p.1) = some p.2 := by
  obtain ⟨result, hall, -⟩ := setAll_eq s ps
  have hconfig : (s.setAll ps).store.config
      = s.config.insertAll ((copied ps).map fun p => (.text p.1, p.2)) := by
    rw [hall]
    exact config_writeAll s (copied ps)
  have hself : (s.setAll ps).store.toList = s.toList ↔ (s.setAll ps).store.config = s.config :=
    ⟨OrderedMap.ext, congrArg OrderedMap.toList⟩
  rw [hself, hconfig, OrderedMap.insertAll_eq_self_iff]
  constructor
  · intro h p hp
    refine h (.text p.1, p.2) ?_
    rw [getLast?_filter_text, hp]
    rfl
  · intro h q hq
    -- only keys that are texts are written
    obtain ⟨p, -, rfl⟩ := List.mem_map.1 (List.mem_filter.1 (List.mem_of_getLast? hq)).1
    rw [getLast?_filter_text, Option.map_eq_some_iff] at hq
    obtain ⟨p', hp', heq⟩ := hq
    obtain ⟨hkey, hvalue⟩ := Prod.mk.inj heq
    obtain rfl : p' = p := Prod.ext (StoredKey.text.inj hkey) hvalue
    exact h p' hp'

/-- A copy warns about nothing if none of the keys that it writes is deprecated. -/
theorem warningTexts_setAll_eq_nil_iff {t : Tables} (hs : s.Follows t)
    (ps : List (StoredKey × String)) :
    warningTexts (s.setAll ps).events = [] ↔
      ∀ p ∈ copied ps, t.warningText? p.1 = none := by
  have hwritten : ((copied ps).map fun p => Mutation.write p.1 p.2).filterMap Mutation.written?
      = (copied ps).map Prod.fst := by
    rw [List.filterMap_map]
    exact List.filterMap_eq_map ▸ rfl
  rw [(hs.setAll ps).warned, hwritten, List.filterMap_eq_nil_iff, List.forall_mem_map]

/-! ### Any call that fails -/

/-- A call that fails and shows it: a typed write of a value of the right type under a
deprecated key; a copy that meets a new pair or a deprecated key before the pair it ends at. -/
def Request.Leaks (t : Tables) (s : Store) : Request → Prop
  | .set (.entry e) v => v.type = e.default.type ∧ (t.warningText? e.key).isSome = true
  | .setAll ps =>
    (∃ p, ((copied ps).filter (·.1 == p.1)).getLast? = some p ∧
      s.config.find? (.text p.1) ≠ some p.2) ∨
    ∃ p ∈ copied ps, (t.warningText? p.1).isSome = true
  | _ => False

/-- A call that is neither a typed write nor a copy is silent if it fails. -/
theorem silent_perform_of_error {r : Request} (h : (s.perform r).result = .error f)
    (hset : ∀ e v, r ≠ .set (.entry e) v) (hall : ∀ ps, r ≠ .setAll ps) :
    (s.perform r).Silent s := by
  have hread : ∀ a e, (s.afterRead a e).toList = s.toList := fun a e =>
    congrArg OrderedMap.toList (config_afterRead s a e)
  cases r with
  | get key =>
    cases key with
    | name key => exact ⟨congrArg OrderedMap.toList (config_afterGet s key), rfl⟩
    | entry e => exact ⟨hread .string e, rfl⟩
    | other v hv => exact silent_refl s _
  | set key v =>
    cases key with
    | name key => exact (silent_setRaw (ofChange_eq_error h)).ofChange
    | entry e => exact absurd rfl (hset e v)
    | other k hk => exact silent_refl s _
  | setIfMissing key v =>
    cases key with
    | name key => exact (silent_setIfMissing (ofChange_eq_error h)).ofChange
    | entry e => exact (silent_setOtherIfMissing (ofChange_eq_error h)).ofChange
    | other k hk => exact (silent_setOtherIfMissing (ofChange_eq_error h)).ofChange
  | setAll ps => exact absurd rfl (hall ps)
  | remove key =>
    cases key with
    | name key => exact nomatch h
    | entry e => exact (silent_removeOther (ofChange_eq_error h)).ofChange
    | other k hk => exact (silent_removeOther (ofChange_eq_error h)).ofChange
  | read a e => exact ⟨hread a e, rfl⟩
  | contains key => cases key <;> exact silent_refl s _
  | size => exact silent_refl s _
  | pairs => exact silent_refl s _
  | copy => exact silent_refl s _
  | tables => exact ⟨rfl, rfl⟩
  | reads => exact silent_refl s _

theorem silent_setEntry_iff {t : Tables} (hs : s.Follows t) {e : Entry} {v : Value}
    (h : (s.perform (.set (.entry e) v)).result = .error f) :
    (s.perform (.set (.entry e) v)).Silent s ↔ ¬ (Request.set (.entry e) v).Leaks t s := by
  obtain ⟨hpairs, hwarn⟩ := setEntry_of_error hs (ofChange_eq_error h)
  have hnil : (if v.type = e.default.type then (t.warningText? e.key).toList else []) = [] ↔
      ¬ (v.type = e.default.type ∧ (t.warningText? e.key).isSome = true) := by
    by_cases ht : v.type = e.default.type
    · rw [if_pos ht]
      cases t.warningText? e.key <;> simp [ht]
    · simp [ht]
  constructor
  · intro hsilent
    exact hnil.1 (hwarn.symm.trans hsilent.warnings)
  · intro hleaks
    exact ⟨hpairs, hwarn.trans (hnil.2 hleaks)⟩

theorem silent_setAll_iff {t : Tables} (hs : s.Follows t) (ps : List (StoredKey × String)) :
    (s.perform (.setAll ps)).Silent s ↔ ¬ (Request.setAll ps).Leaks t s := by
  have hpairs := toList_setAll_eq_iff s ps
  have hwarn := warningTexts_setAll_eq_nil_iff hs ps
  have hleaks : ¬ (Request.setAll ps).Leaks t s ↔
      (∀ p, ((copied ps).filter (·.1 == p.1)).getLast? = some p →
        s.config.find? (.text p.1) = some p.2) ∧
      ∀ p ∈ copied ps, t.warningText? p.1 = none := by
    simp only [Request.Leaks, not_or, not_exists, not_and, not_not, Option.not_isSome_iff_eq_none]
  rw [hleaks, ← hpairs, ← hwarn]
  exact ⟨fun h => ⟨h.pairs, h.warnings⟩, fun h => ⟨h.1, h.2⟩⟩

/-- **A call that fails is silent unless it leaks**, and only a copy of another store changes
pairs before it fails. -/
theorem silent_iff_of_error (t : Tables) (seed : Option (List (Value × Value)))
    (rs : List Request) {r : Request}
    (h : ((reached t seed rs).perform r).result = .error f) :
    (((reached t seed rs).perform r).Silent (reached t seed rs) ↔
        ¬ r.Leaks t (reached t seed rs)) ∧
      ((∀ ps, r ≠ .setAll ps) →
        ((reached t seed rs).perform r).store.toList = (reached t seed rs).toList) := by
  have hs := follows_reached t seed rs
  by_cases hset : ∃ e v, r = .set (.entry e) v
  · obtain ⟨e, v, rfl⟩ := hset
    exact ⟨silent_setEntry_iff hs h, fun _ => (setEntry_of_error hs (ofChange_eq_error h)).1⟩
  · by_cases hall : ∃ ps, r = .setAll ps
    · obtain ⟨ps, rfl⟩ := hall
      exact ⟨silent_setAll_iff hs ps, fun hne => absurd rfl (hne ps)⟩
    · have hset' : ∀ e v, r ≠ .set (.entry e) v := fun e v he => hset ⟨e, v, he⟩
      have hall' : ∀ ps, r ≠ .setAll ps := fun ps he => hall ⟨ps, he⟩
      have hsilent := silent_perform_of_error h hset' hall'
      refine ⟨iff_of_true hsilent ?_, fun _ => hsilent.pairs⟩
      intro hleaks
      unfold Request.Leaks at hleaks
      split at hleaks
      · next e v => exact hset' e v rfl
      · next ps => exact hall' ps rfl
      · exact hleaks

/-- A raw write of an integer fails and is silent, deprecated though the key is. -/
theorem silent_of_raw_integer :
    ((reached ⟨.empty, .ofList [("old", ⟨"old", "1", "Gone."⟩)]⟩ none []).perform
          (.set (.name "old") (.int 1))).result = .error (.notText (.text "old") "old" .int) ∧
      ((reached ⟨.empty, .ofList [("old", ⟨"old", "1", "Gone."⟩)]⟩ none []).perform
          (.set (.name "old") (.int 1))).Silent
        (reached ⟨.empty, .ofList [("old", ⟨"old", "1", "Gone."⟩)]⟩ none []) := by
  obtain ⟨hsilent, -⟩ := silent_iff_of_error
    ⟨.empty, .ofList [("old", ⟨"old", "1", "Gone."⟩)]⟩ none [] (r := .set (.name "old") (.int 1))
    (f := .notText (.text "old") "old" .int) rfl
  exact ⟨rfl, hsilent.2 id⟩

/-! ### Integers that are too long -/

theorem stored_of_too_long {n : Nat} (h : 10 ^ digitLimit ≤ n) :
    (Value.int n).stored = .error .tooLongToWrite := by
  have hlength : ¬ (decimal (n : Int).natAbs).length ≤ digitLimit := by
    rw [Int.natAbs_natCast, length_decimal_le_iff (by decide)]
    exact Nat.not_lt.2 h
  rw [Value.stored_int, printInteger, if_neg hlength]

/-- A typed write of an integer that is too long fails after the check of its key. -/
theorem set_of_too_long {t : Tables} (hs : s.Follows t) {e : Entry}
    (he : e.default.type = .int) {n : Nat} (h : 10 ^ digitLimit ≤ n) :
    (s.perform (.set (.entry e) (.int n))).result = .error (.numeral .tooLongToWrite) ∧
      warningTexts (s.perform (.set (.entry e) (.int n))).events
        = (t.warningText? e.key).toList := by
  have hset := setEntry_of_type_eq s (v := .int n) (by simp) he.symm
  rw [stored_of_too_long h] at hset
  change (ofChange (s.setEntry e (.int n))).result = _ ∧
    warningTexts (s.setEntry e (.int n)).events = _
  rw [hset]
  exact ⟨rfl, (hs.note e.key).2⟩

/-- The least integer that is too long has been warned about when its write fails. -/
theorem warned_of_long_integer :
    ((reached ⟨.empty, .ofList [("old", ⟨"old", "1", "Gone."⟩)]⟩ none []).perform
          (.set (.entry (.declared "old" (.int 0))) (.int (10 ^ digitLimit : Nat)))).result
        = .error (.numeral .tooLongToWrite) ∧
      warningTexts
          ((reached ⟨.empty, .ofList [("old", ⟨"old", "1", "Gone."⟩)]⟩ none []).perform
            (.set (.entry (.declared "old" (.int 0))) (.int (10 ^ digitLimit : Nat)))).events
        = ["The configuration key old has been deprecated as of 1 and may be removed in the " ++
            "future. Gone."] :=
  set_of_too_long (e := .declared "old" (.int 0)) (follows_reached _ none []) rfl
    (Nat.le_refl (10 ^ digitLimit))

end Store

end Settings
