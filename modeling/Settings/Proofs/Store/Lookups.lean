import Settings.Proofs.Store.Clients
import Settings.Proofs.Store.Resolution

/-!
# A read among writers

A read of a key takes no lock.  It looks the key up, and if the key has no value, it looks the
old key up; between the two the other clients may take any number of steps.  So the two look-ups
may find a store in two different states, and what they find together need not be what a read
finds in any single one of them: a value that is moved from the old key to the key behind the
back of the read is found under neither.

That is the only way.  What carries the proof is the last state in which the key had no value:
if the old key still has the value of that state when it is looked up, then the read finds
what there was to find then.

## Main definitions

* `Store.Reading`, `Store.Watched` — a read under way, beside a store with its clients.
* `Store.Watched.Step` — a step of a client or of the read.
* `Store.Overtaken` — the key has got a value behind the back of the read, and the old key another
  one after that.

## Main results

* `Store.Watched.get_alone` — a read that is not interrupted does what `Store.perform` does.
* `Store.Watched.exists_step` — a read that has not ended can always go on.
* `Store.Watched.Inv.step` — what is known of a read is kept by every step.
* `Store.Watched.atomic_unless_overtaken` — **a read finds what there is to find in one state of
  the store, unless it is overtaken.**
-/

namespace Settings

namespace Store

/-! ### Reads under way -/

/-- How far a read of a key has come. -/
inductive Reading where
  /-- The key has not been looked up yet. -/
  | begun
  /-- The key has no value, and the old key is to be looked up. -/
  | missed (old : String)
  /-- The read has ended, with a value or with none. -/
  | ended (value? : Option String)

/-- What a read has come to when it has looked its key up. -/
def lookUp (s : Store) (key : String) : Reading :=
  match s.own? key with
  | some value => .ended (some value)
  | none =>
    match s.tables.oldKey? key with
    | none => .ended none
    | some old => .missed old

/-- A key without a value reads as its old key. -/
theorem get_of_missing {s : Store} {key old : String} (hown : s.own? key = none)
    (hold : s.tables.oldKey? key = some old) : s.get key = s.own? old := by
  rw [get_eq, hown, hold, Option.none_or, Option.bind_some]

/-- The first look-up ends the read with what there is to find, or leaves the old key of a key
without a value to be looked up. -/
theorem lookUp_cases (s : Store) (key : String) :
    s.lookUp key = .ended (s.get key) ∨
      ∃ old, s.lookUp key = .missed old ∧ s.own? key = none ∧ s.tables.oldKey? key = some old := by
  cases hown : s.own? key with
  | some value =>
    left
    simp only [lookUp, get_eq, hown, Option.some_or]
  | none =>
    cases hold : s.tables.oldKey? key with
    | none =>
      left
      simp only [lookUp, get_eq, hown, hold, Option.none_or, Option.bind_none]
    | some old =>
      right
      exact ⟨old, by simp only [lookUp, hown, hold], rfl, rfl⟩

theorem own?_afterGet (s : Store) (key k : String) : (s.afterGet key).own? k = s.own? k := by
  rw [own?, own?, config_afterGet]

theorem get_afterGet (s : Store) (key k : String) : (s.afterGet key).get k = s.get k := by
  simp only [get_eq, own?_afterGet, tables_afterGet]

/-- What a read finds is what the key has, or what its old key has. -/
theorem own?_or_old_eq_get (s : Store) (key : String) :
    s.own? key = s.get key ∨ (s.tables.oldKey? key).bind s.own? = s.get key := by
  rw [get_eq]
  cases s.own? key with
  | some value => exact Or.inl rfl
  | none => exact Or.inr rfl

/-- A store with its clients, and a read of a key beside them.  The states of the store are
written down from the beginning of the read until its end, and once more from its first look-up
on. -/
structure Watched (ι : Type) where
  shared : Shared ι
  reading : Reading
  seen : List Store
  since : List Store

namespace Watched

variable {ι : Type}

/-- A read begins. -/
def begin (c : Shared ι) : Watched ι := ⟨c, .begun, [c.store], []⟩

/-- The clients have come further; a read that is under way sees the store. -/
def follow (w : Watched ι) (c : Shared ι) : Watched ι :=
  match w.reading with
  | .begun => { w with shared := c, seen := w.seen ++ [c.store] }
  | .missed _ =>
    { w with shared := c, seen := w.seen ++ [c.store], since := w.since ++ [c.store] }
  | .ended _ => { w with shared := c }

/-- The read has looked its key up. -/
def lookUpKey (w : Watched ι) (key : String) : Watched ι where
  shared := { w.shared with store := w.shared.store.afterGet key }
  reading := w.shared.store.lookUp key
  seen := w.seen ++ [w.shared.store.afterGet key]
  since := [w.shared.store.afterGet key]

/-- The read has looked the old key up. -/
def lookUpOld (w : Watched ι) (old : String) : Watched ι :=
  { w with reading := .ended (w.shared.store.own? old) }

variable [DecidableEq ι]

/-- One step of a client, or of the read of a key. -/
inductive Step (key : String) : Watched ι → Watched ι → Prop
  | client {w : Watched ι} {c : Shared ι} (step : Shared.Step w.shared c) :
      Step key w (w.follow c)
  | key {w : Watched ι} (begun : w.reading = .begun) : Step key w (w.lookUpKey key)
  | old {w : Watched ι} {old : String} (missed : w.reading = .missed old) :
      Step key w (w.lookUpOld old)

/-- Any number of steps. -/
abbrev Steps (key : String) : Watched ι → Watched ι → Prop := Relation.ReflTransGen (Step key)

/-- **A read that has not ended can always go on.** -/
theorem exists_step {key : String} {w : Watched ι} (h : ∀ value?, w.reading ≠ .ended value?) :
    ∃ w', Step key w w' ∧ w'.reading ≠ w.reading := by
  cases hr : w.reading with
  | begun =>
    refine ⟨_, .key hr, ?_⟩
    simp only [lookUpKey, lookUp]
    split
    · exact Reading.noConfusion
    · split <;> exact Reading.noConfusion
  | missed old => exact ⟨_, .old hr, Reading.noConfusion⟩
  | ended value? => exact absurd hr (h value?)

/-- **A read that is not interrupted does what `Store.perform` does.** -/
theorem get_alone (key : String) (c : Shared ι) :
    ∃ w : Watched ι, Steps key (begin c) w ∧ w.reading = .ended (c.store.get key) ∧
      w.shared.store = (c.store.perform (.get (.name key))).store := by
  have first : Steps key (begin c) ((begin c).lookUpKey key) := .single (.key rfl)
  rcases lookUp_cases c.store key with hended | ⟨old, hmissed, hown, hold⟩
  · exact ⟨_, first, hended, rfl⟩
  · refine ⟨_, first.tail (.old hmissed), ?_, rfl⟩
    rw [get_of_missing hown hold]
    exact congrArg Reading.ended (own?_afterGet c.store key old)

end Watched

/-! ### What two look-ups find -/

/-- The key has got a value behind the back of a read, and kept it; and the old key has got another
one since then, or lost it.  The states are those from one in which the key had no value to one
in which the old key is looked up. -/
def Overtaken (key old : String) (l : List Store) : Prop :=
  ∃ before s after last, l = before ++ s :: (after ++ [last]) ∧ s.own? key = none ∧
    (∀ s' ∈ after ++ [last], s'.own? key ≠ none) ∧ last.own? old ≠ s.own? old

section Overtaken

variable {key old : String} {t : Tables} {l : List Store} {first last : Store}

/-- Of states the first of which lacks a key, there is a last one that does. -/
theorem exists_last_missing (hfirst : first.own? key = none) (l : List Store) :
    ∃ before s after, first :: l = before ++ s :: after ∧ s.own? key = none ∧
      ∀ s' ∈ after, s'.own? key ≠ none := by
  induction l using List.reverseRecOn with
  | nil => exact ⟨[], first, [], rfl, hfirst, fun s' hs' => absurd hs' List.not_mem_nil⟩
  | append_singleton l s' ih =>
    by_cases hs' : s'.own? key = none
    · exact ⟨first :: l, s', [], rfl, hs', fun a ha => absurd ha List.not_mem_nil⟩
    · obtain ⟨before, s, after, hl, hs, hafter⟩ := ih
      refine ⟨before, s, after ++ [s'], ?_, hs, ?_⟩
      · rw [← List.cons_append, hl, List.append_assoc, List.cons_append]
      · intro a ha
        rcases List.mem_append.1 ha with ha | ha
        · exact hafter a ha
        · rw [List.mem_singleton.1 ha]
          exact hs'

/-- **What the old key has in the end** is what a read of the key finds in one of the states,
unless the read has been overtaken. -/
theorem get_or_overtaken (ht : ∀ s ∈ first :: l, s.tables = t) (hold : t.oldKey? key = some old)
    (hfirst : first.own? key = none) (hlast : (first :: l).getLast? = some last) :
    (∃ s ∈ first :: l, s.get key = last.own? old) ∨ Overtaken key old (first :: l) := by
  obtain ⟨before, s, after, hl, hs, hafter⟩ := exists_last_missing hfirst l
  have hmem : s ∈ first :: l := by rw [hl]; simp
  have hget : s.get key = s.own? old := get_of_missing hs (by rw [ht s hmem, hold])
  rw [hl, List.getLast?_append_cons] at hlast
  cases after using List.reverseRecOn with
  | nil =>
    -- the key has no value when the old key is looked up
    rw [List.getLast?_singleton, Option.some.injEq] at hlast
    exact Or.inl ⟨s, hmem, hlast ▸ hget⟩
  | append_singleton after s' =>
    rw [← List.cons_append, List.getLast?_concat, Option.some.injEq] at hlast
    subst hlast
    by_cases hsame : s'.own? old = s.own? old
    · exact Or.inl ⟨s, hmem, hget.trans hsame.symm⟩
    · exact Or.inr ⟨before, s, after, s', hl, hs, hafter, hsame⟩

end Overtaken

namespace Watched

/-! ### What is known of a read -/

/-- The read of a key has been overtaken between its two look-ups. -/
def Late {ι : Type} (w : Watched ι) (t : Tables) (key : String) : Prop :=
  ∃ old, t.oldKey? key = some old ∧ Overtaken key old w.since

/-- What is known of a read that has ended, going by the states that it has seen. -/
structure Found {ι : Type} (t : Tables) (key : String) (w : Watched ι) (value? : Option String) :
    Prop where
  /-- It is what there was to find in one of the states, unless the read is too late. -/
  atomic : (∃ s ∈ w.seen, s.get key = value?) ∨ w.Late t key
  /-- In any case it is what the key or its old key had in one of the states. -/
  held : ∃ s ∈ w.seen, s.own? key = value? ∨ (t.oldKey? key).bind s.own? = value?

/-- What is known of a read that has come so far. -/
def Sound {ι : Type} (t : Tables) (key : String) (w : Watched ι) : Reading → Prop
  | .begun => w.since = []
  | .missed old => t.oldKey? key = some old ∧
      ∃ first rest, w.since = first :: rest ∧ first.own? key = none ∧
        w.since.getLast? = some w.shared.store
  | .ended value? => w.Found t key value?

/-- The invariant of a read among writers. -/
structure Inv {ι : Type} (t : Tables) (key : String) (w : Watched ι) : Prop where
  tables : w.shared.store.tables = t
  known : ∀ s ∈ w.seen, s.tables = t
  recent : w.since <:+ w.seen
  sound : w.Sound t key w.reading

section Invariant

variable {ι : Type} {t : Tables} {key old : String} {w w' : Watched ι} {c : Shared ι}

theorem Inv.begin (c : Shared ι) (key : String) : Inv c.store.tables key (begin c) where
  tables := rfl
  known := by
    intro s hs
    rw [List.mem_singleton.1 hs]
  recent := List.nil_suffix
  sound := rfl

/-- The states that the read has seen, and one more. -/
theorem Inv.known_concat (h : Inv t key w) {s' : Store} (hs' : s'.tables = t) :
    ∀ s ∈ w.seen ++ [s'], s.tables = t := by
  intro s hs
  rcases List.mem_append.1 hs with hs | hs
  · exact h.known s hs
  · rw [List.mem_singleton.1 hs, hs']

/-- The tables stay the same whatever the clients do. -/
theorem tables_of_step [DecidableEq ι] (h : Shared.Step w.shared c) :
    c.store.tables = w.shared.store.tables := by
  cases h <;> rfl

/-- A read that is under way sees a step of a client and is where it was. -/
theorem Inv.follow (h : Inv t key w) (hc : c.store.tables = t) : Inv t key (w.follow c) := by
  have hsound := h.sound
  cases hr : w.reading with
  | begun =>
    rw [hr] at hsound
    have hnil : w.since = [] := hsound
    simp only [Watched.follow, hr]
    refine ⟨hc, h.known_concat hc, ?_, hnil⟩
    rw [hnil]
    exact List.nil_suffix
  | missed old =>
    rw [hr] at hsound
    obtain ⟨hold, first, rest, hsince, hfirst, -⟩ := hsound
    simp only [Watched.follow, hr]
    refine ⟨hc, h.known_concat hc, ?_, hold, first, rest ++ [c.store], ?_, hfirst, ?_⟩
    · obtain ⟨before, hbefore⟩ := h.recent
      exact ⟨before, by rw [← List.append_assoc, hbefore]⟩
    · rw [hsince, List.cons_append]
    · exact List.getLast?_concat
  | ended value? =>
    rw [hr] at hsound
    have hfound : w.Found t key value? := hsound
    simp only [Watched.follow, hr]
    exact ⟨hc, h.known, h.recent, hfound.atomic, hfound.held⟩

/-- The first look-up finds what there is to find, or the key without a value. -/
theorem Inv.lookUpKey (h : Inv t key w) : Inv t key (w.lookUpKey key) := by
  have htables : (w.shared.store.afterGet key).tables = t := by
    rw [tables_afterGet, h.tables]
  have hmem : w.shared.store.afterGet key ∈ (w.lookUpKey key).seen :=
    List.mem_append_right _ (List.mem_singleton.2 rfl)
  refine ⟨htables, h.known_concat htables, List.suffix_append _ _, ?_⟩
  change (w.lookUpKey key).Sound t key (w.shared.store.lookUp key)
  rcases lookUp_cases w.shared.store key with hended | ⟨old, hmissed, hown, hold⟩
  · rw [hended, ← get_afterGet w.shared.store key key]
    refine ⟨Or.inl ⟨_, hmem, rfl⟩, _, hmem, ?_⟩
    rw [← htables]
    exact own?_or_old_eq_get _ key
  · rw [hmissed]
    refine ⟨by rw [← h.tables, hold], w.shared.store.afterGet key, [], rfl, ?_, rfl⟩
    rw [own?_afterGet, hown]

/-- The second look-up finds what the old key has. -/
theorem Inv.lookUpOld (h : Inv t key w) (hr : w.reading = .missed old) :
    Inv t key (w.lookUpOld old) := by
  have hsound := h.sound
  rw [hr] at hsound
  obtain ⟨hold, first, rest, hsince, hfirst, hlast⟩ := hsound
  have hsubset : ∀ s ∈ w.since, s ∈ w.seen := fun s hs => h.recent.subset hs
  refine ⟨h.tables, h.known, h.recent, ?_, ?_⟩
  · have hknown : ∀ s ∈ first :: rest, s.tables = t := by
      intro s hs
      exact h.known s (hsubset s (hsince ▸ hs))
    rw [hsince] at hlast
    rcases get_or_overtaken hknown hold hfirst hlast with ⟨s, hs, hget⟩ | hlate
    · exact Or.inl ⟨s, hsubset s (hsince ▸ hs), hget⟩
    · exact Or.inr ⟨old, hold, show Overtaken key old w.since from hsince ▸ hlate⟩
  · refine ⟨w.shared.store, hsubset _ (List.mem_of_getLast? hlast), Or.inr ?_⟩
    rw [hold]
    rfl

/-- A read is not overtaken if the key has no value when the old key is looked up. -/
theorem not_late_of_missing
    (h : ∀ last, w.since.getLast? = some last → last.own? key = none) : ¬ w.Late t key := by
  rintro ⟨old, -, before, s, after, last, hsince, -, hkept, -⟩
  have hlast : w.since.getLast? = some last := by
    rw [hsince, List.getLast?_append_cons, ← List.cons_append]
    exact List.getLast?_concat
  exact hkept last (by simp) (h last hlast)

variable [DecidableEq ι]

/-- **What is known of a read is kept by every step**, be it of a client or of the read. -/
theorem Inv.step (h : Inv t key w) (hstep : Step key w w') : Inv t key w' := by
  cases hstep with
  | client step => exact h.follow ((tables_of_step step).trans h.tables)
  | key begun => exact h.lookUpKey
  | old missed => exact h.lookUpOld missed

theorem Inv.steps (h : Inv t key w) (hsteps : Steps key w w') : Inv t key w' := by
  induction hsteps with
  | refl => exact h
  | tail _ hstep ih => exact ih.step hstep

/-- **A read finds what there is to find in one state of the store**, from its beginning to its
end, unless it is overtaken: between its two look-ups the key gets a value and keeps one, and
after that the old key gets another one or loses it.  In any case the read finds what the key or
its old key had in one of the states.  So a read finds something if one of the two has a value all
the time, unless it is overtaken. -/
theorem atomic_unless_overtaken {value? : Option String} (h : Steps key (begin c) w)
    (hended : w.reading = .ended value?) :
    let t := c.store.tables
    w.since <:+ w.seen ∧
      ((∃ s ∈ w.seen, s.get key = value?) ∨ w.Late t key) ∧
      (∃ s ∈ w.seen, s.own? key = value? ∨ (t.oldKey? key).bind s.own? = value?) ∧
      ((∀ s ∈ w.seen, s.own? key ≠ none ∨ (t.oldKey? key).bind s.own? ≠ none) →
        ¬ w.Late t key → value? ≠ none) := by
  intro t
  have hinv : Inv t key w := (Inv.begin c key).steps h
  have hfound : w.Found t key value? := by
    have hsound := hinv.sound
    rw [hended] at hsound
    exact hsound
  refine ⟨hinv.recent, hfound.atomic, hfound.held, ?_⟩
  rintro hfull hlate rfl
  obtain ⟨s, hs, hget⟩ := hfound.atomic.resolve_right hlate
  rw [get_eq, hinv.known s hs, Option.or_eq_none_iff] at hget
  exact (hfull s hs).elim (fun hown => hown hget.1) fun hold => hold hget.2

end Invariant

/-- A client behind the back of a read writes the key, removes it again and then changes the old
key: the read finds the value that the old key has in the end, as there is nothing else. -/
theorem atomic_unless_overtaken_of_detour :
    let t : Tables := ⟨.ofList [("new", ⟨"old", "1", ""⟩)], .empty⟩
    let s := reached t (some [(.text "old", .text "x")]) []
    let p : Unit → Program := fun _ =>
      .call (.set (.name "new") (.text "z")) fun _ =>
        .call (.remove "new") fun _ => .call (.set (.name "old") (.text "y")) fun _ => .finished
    ∃ w : Watched Unit, Steps "new" (begin (.initial s p)) w ∧ w.reading = .ended (some "y") ∧
      ¬ w.Late t "new" ∧ ∃ s' ∈ w.seen, s'.get "new" = some "y" := by
  intro t s p
  have missed : Steps "new" (begin (.initial s p)) _ := .single (.key rfl)
  have checked := missed.tail (.client (.precheck (i := ()) rfl rfl))
  have written := checked.tail (.client (.enter (i := ()) rfl))
  have removed := written.tail (.client (.enterAtOnce (i := ()) rfl rfl))
  have noted := removed.tail (.client (.precheck (i := ()) rfl rfl))
  have changed := noted.tail (.client (.enter (i := ()) rfl))
  obtain ⟨w, hw, hended, hlast⟩ : ∃ w, Steps "new" (begin (.initial s p)) w ∧
      w.reading = .ended (some "y") ∧
      ∀ last, w.since.getLast? = some last → last.own? "new" = none := by
    refine ⟨_, changed.tail (.old (show _ = Reading.missed "old" from rfl)), rfl, ?_⟩
    intro last hlast
    obtain rfl := Option.some.inj hlast
    rfl
  obtain ⟨-, hatomic, -⟩ := atomic_unless_overtaken hw hended
  have hlate : ¬ w.Late t "new" := not_late_of_missing hlast
  exact ⟨w, hw, hended, hlate, hatomic.resolve_right hlate⟩

/-- A client behind the back of a read moves a value from the old key to the key.  The value is
there to find all the time, and yet the read finds nothing. -/
theorem lost_in_migration :
    let t : Tables := ⟨.ofList [("new", ⟨"old", "1", ""⟩)], .empty⟩
    let s := reached t (some [(.text "old", .text "x")]) []
    let p : Unit → Program := fun _ =>
      .call (.set (.name "new") (.text "x")) fun _ => .call (.remove "old") fun _ => .finished
    ∃ w : Watched Unit, Steps "new" (begin (.initial s p)) w ∧ w.reading = .ended none ∧
      ∀ s' ∈ w.seen, s'.get "new" = some "x" := by
  intro t s p
  have missed : Steps "new" (begin (.initial s p)) _ := .single (.key rfl)
  have checked := missed.tail (.client (.precheck (i := ()) rfl rfl))
  have written := checked.tail (.client (.enter (i := ()) rfl))
  have removed := written.tail (.client (.enterAtOnce (i := ()) rfl rfl))
  obtain ⟨w, hw, hended, hall⟩ : ∃ w, Steps "new" (begin (.initial s p)) w ∧
      w.reading = .ended none ∧ (w.seen.all fun s' => s'.get "new" == some "x") = true :=
    ⟨_, removed.tail (.old (show _ = Reading.missed "old" from rfl)), rfl, rfl⟩
  exact ⟨w, hw, hended, fun s' hs' => eq_of_beq (List.all_eq_true.1 hall s' hs')⟩

end Watched

end Store

end Settings
