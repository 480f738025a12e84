import Mathlib.Logic.Function.Basic
import Mathlib.Logic.Relation
import Settings.Deprecation.Index
import Settings.Proofs.OrderedMap

/-!
# Building the index once

Callers of the reverse map first look for it without the lock.  One that finds none takes the
lock and looks again; if there is still none, it asks for the table of alternatives, builds the
reverse of its rows one by one, and puts the whole map into the field before it gives the lock
back.  Any number of callers do so at once, in any order of their steps, and between any two of
them other tables may be put in the place of those that are there.

The invariant is about each caller on its own: what it knows of the field and of the tables
that have been handed out (`Caller.Sound`).  Only the owner of the lock writes, and what the
others know is about the field once it is filled, so that one step by one caller leaves the
knowledge of the others intact.

## Main definitions

* `Caller` — how far a caller has come.
* `Crowd`, `Crowd.Step` — an index with its callers, and one step of one of them.
* `Crowd.Inv` — the invariant.

## Main results

* `Crowd.Inv.step` — the invariant is kept by every step.
* `Crowd.call_alone` — a caller who is not interrupted does what `Index.force` does.
* `Crowd.built_once` — **the index is built once, and all callers get it whole.**
-/

namespace Settings

namespace Index

/-! ### Callers -/

/-- How far a caller of the reverse map has come. -/
inductive Caller where
  /-- It is to look at the field. -/
  | start
  /-- It has found the field empty, and waits for the lock. -/
  | waiting
  /-- It has the lock, and is to look at the field again. -/
  | locked
  /-- It has found the field empty again, and is to ask for the table. -/
  | asking
  /-- It has built a map, and these rows are left. -/
  | building (rows : List (String × Deprecation)) (m : OrderedMap String Replacement)
  /-- It has its answer, and is to give the lock back. -/
  | leaving (m : OrderedMap String Replacement)
  /-- It has returned its answer. -/
  | returned (m : OrderedMap String Replacement)

/-- The caller is between taking the lock and giving it back. -/
def Caller.inside : Caller → Bool
  | locked | asking | building _ _ | leaving _ => true
  | start | waiting | returned _ => false

/-- An index with its callers.  For every time that the table of alternatives was asked for,
`asked` has the table as it was then. -/
structure Crowd (ι : Type) where
  index : Index
  tables : Tables
  lock : Option ι
  callers : ι → Caller
  asked : List DeprecationTable

namespace Crowd

/-- An index before its first use. -/
def initial {ι : Type} (t : Tables) : Crowd ι := ⟨.fresh, t, none, fun _ => .start, []⟩

variable {ι : Type} [DecidableEq ι]

/-- The crowd in which one caller has come further. -/
def move (c : Crowd ι) (i : ι) (p : Caller) : Crowd ι :=
  { c with callers := Function.update c.callers i p }

/-- One step of one caller, or a change of the tables.  After a change whoever asks for the tables
gets others.  The rows that a caller has got by then are a value of its own, which no change
reaches; a table that is written to while somebody goes through its rows breaks that off with an
error, and is none of these steps. -/
inductive Step : Crowd ι → Crowd ι → Prop
  | hit {c : Crowd ι} {i m} (at_start : c.callers i = .start) (full : c.index.built = some m) :
      Step c (c.move i (.returned m))
  | miss {c : Crowd ι} {i} (at_start : c.callers i = .start) (empty : c.index.built = none) :
      Step c (c.move i .waiting)
  | acquire {c : Crowd ι} {i} (is_waiting : c.callers i = .waiting) (free : c.lock = none) :
      Step c { c.move i .locked with lock := some i }
  | hitAgain {c : Crowd ι} {i m} (is_locked : c.callers i = .locked)
      (full : c.index.built = some m) : Step c (c.move i (.leaving m))
  | missAgain {c : Crowd ι} {i} (is_locked : c.callers i = .locked)
      (empty : c.index.built = none) : Step c (c.move i .asking)
  | ask {c : Crowd ι} {i} (is_asking : c.callers i = .asking) :
      Step c { c.move i (.building c.tables.alternatives.toList .empty) with
        index := c.index.askAlternatives
        asked := c.asked ++ [c.tables.alternatives] }
  | build {c : Crowd ι} {i row rows m} (is_building : c.callers i = .building (row :: rows) m) :
      Step c (c.move i (.building rows (m.insert (reverseRow row).1 (reverseRow row).2)))
  | publish {c : Crowd ι} {i m} (is_built : c.callers i = .building [] m) :
      Step c { c.move i (.leaving m) with index := { c.index with built := some m } }
  | release {c : Crowd ι} {i m} (is_leaving : c.callers i = .leaving m) :
      Step c { c.move i (.returned m) with lock := none }
  | change {c : Crowd ι} (t : Tables) : Step c { c with tables := t }

/-- Any number of steps. -/
abbrev Steps : Crowd ι → Crowd ι → Prop := Relation.ReflTransGen Step

theorem callers_move_self (c : Crowd ι) (i : ι) (p : Caller) : (c.move i p).callers i = p := by
  simp [move]

/-- What holds of the caller that has moved, and of the others as they were, holds of all. -/
theorem forall_callers_move {c : Crowd ι} {i : ι} {p : Caller} {P : ι → Caller → Prop}
    (hi : P i p) (hne : ∀ j, j ≠ i → P j (c.callers j)) (j : ι) :
    P j ((c.move i p).callers j) :=
  (Function.forall_update_iff c.callers P).2 ⟨hi, hne⟩ j

end Crowd

/-! ### The invariant -/

/-- What a caller knows of the field and of the tables that have been handed out.  While it
builds, the rows of the one table are those in its map and those that are left. -/
def Caller.Sound (built : Option (OrderedMap String Replacement)) (asked : List DeprecationTable) :
    Caller → Prop
  | start => True
  | waiting => True
  | locked => built = none → asked = []
  | asking => built = none ∧ asked = []
  | building rows m => built = none ∧ ∃ t done,
      asked = [t] ∧ t.toList = done ++ rows ∧ m = .ofList (done.map reverseRow)
  | leaving m => built = some m
  | returned m => built = some m

/-- A caller without the lock knows nothing of an empty field, and so nothing that becomes
wrong when the field is filled. -/
theorem Caller.Sound.of_not_inside {p : Caller} {asked : List DeprecationTable}
    (h : p.Sound none asked) (hp : p.inside = false)
    (built' : Option (OrderedMap String Replacement)) (asked' : List DeprecationTable) :
    p.Sound built' asked' := by
  cases p with
  | start => trivial
  | waiting => trivial
  | returned m => exact nomatch h
  | locked => exact nomatch hp
  | asking => exact nomatch hp
  | building rows m => exact nomatch hp
  | leaving m => exact nomatch hp

namespace Crowd

/-- The invariant of a crowd. -/
structure Inv {ι : Type} (c : Crowd ι) : Prop where
  owner : ∀ i, (c.callers i).inside = true → c.lock = some i
  sound : ∀ i, (c.callers i).Sound c.index.built c.asked
  whole : ∀ m, c.index.built = some m → ∃ t, c.asked = [t] ∧ m = reverseTable t
  unasked : c.lock = none → c.index.built = none → c.asked = []
  once : c.asked.length ≤ 1
  reads : c.index.alternativesReads = c.asked.length

theorem Inv.initial {ι : Type} (t : Tables) : Inv (initial t : Crowd ι) where
  owner := fun _ h => nomatch h
  sound := fun _ => trivial
  whole := fun _ h => nomatch h
  unasked := fun _ _ => rfl
  once := Nat.zero_le 1
  reads := rfl

section Owner

variable {ι : Type} {c : Crowd ι} {i j : ι}

theorem Inv.lock_eq (h : Inv c) {p : Caller} (hi : c.callers i = p) (hp : p.inside = true) :
    c.lock = some i := h.owner i (hi ▸ hp)

theorem Inv.knows (h : Inv c) {p : Caller} (hi : c.callers i = p) :
    p.Sound c.index.built c.asked := hi ▸ h.sound i

/-- The others do not have the lock that one caller has. -/
theorem Inv.inside_of_ne (h : Inv c) (hlock : c.lock = some i) (hj : j ≠ i) :
    (c.callers j).inside = false := by
  rw [Bool.eq_false_iff]
  intro hin
  exact hj (Option.some.inj ((h.owner j hin).symm.trans hlock))

/-- While the field is empty, the owner of the lock may fill it or have a table handed out:
what the others know stays right. -/
theorem Inv.sound_of_ne (h : Inv c) (hlock : c.lock = some i) (hempty : c.index.built = none)
    (built : Option (OrderedMap String Replacement)) (asked : List DeprecationTable)
    (hj : j ≠ i) : (c.callers j).Sound built asked := by
  have hsound := h.sound j
  rw [hempty] at hsound
  exact hsound.of_not_inside (h.inside_of_ne hlock hj) built asked

end Owner

variable {ι : Type} [DecidableEq ι] {c c' : Crowd ι} {i : ι}

/-- A step that moves a caller and nothing else keeps the invariant. -/
theorem Inv.move (h : Inv c) {p : Caller} (hp : p.Sound c.index.built c.asked)
    (hin : p.inside = true → c.lock = some i) : Inv (c.move i p) where
  owner := forall_callers_move (P := fun j q => q.inside = true → c.lock = some j) hin
    fun j _ => h.owner j
  sound := forall_callers_move (P := fun _ q => q.Sound c.index.built c.asked) hp
    fun j _ => h.sound j
  whole := h.whole
  unasked := h.unasked
  once := h.once
  reads := h.reads

theorem Inv.acquire (h : Inv c) (free : c.lock = none) :
    Inv { c.move i .locked with lock := some i } where
  owner := forall_callers_move (P := fun j q => q.inside = true → some i = some j)
    (fun _ => rfl) fun j _ hin => nomatch free.symm.trans (h.owner j hin)
  sound := forall_callers_move (P := fun _ q => q.Sound c.index.built c.asked)
    (h.unasked free) fun j _ => h.sound j
  whole := h.whole
  unasked := fun hlock => nomatch hlock
  once := h.once
  reads := h.reads

theorem Inv.ask (h : Inv c) (hi : c.callers i = .asking) :
    Inv { c.move i (.building c.tables.alternatives.toList .empty) with
      index := c.index.askAlternatives
      asked := c.asked ++ [c.tables.alternatives] } := by
  have hlock := h.lock_eq hi rfl
  obtain ⟨hempty, hasked⟩ := h.knows hi
  have hone : c.asked ++ [c.tables.alternatives] = [c.tables.alternatives] := by
    rw [hasked, List.nil_append]
  refine ⟨?_, ?_, ?_, ?_, Nat.le_of_eq (congrArg List.length hone), ?_⟩
  · exact forall_callers_move (P := fun j q => q.inside = true → c.lock = some j)
      (fun _ => hlock) fun j _ => h.owner j
  · -- none of the rows is in the map yet
    refine forall_callers_move (P := fun _ q => q.Sound c.index.built
      (c.asked ++ [c.tables.alternatives])) ?_ fun j hj => h.sound_of_ne hlock hempty _ _ hj
    exact ⟨hempty, c.tables.alternatives, [], hone, rfl, rfl⟩
  · intro m hm
    exact nomatch hempty.symm.trans hm
  · intro hfree _
    exact nomatch hlock.symm.trans hfree
  · change c.index.alternativesReads + 1 = (c.asked ++ [c.tables.alternatives]).length
    rw [h.reads, List.length_append, List.length_singleton]

theorem Inv.publish (h : Inv c) {m : OrderedMap String Replacement}
    (hi : c.callers i = .building [] m) :
    Inv { c.move i (.leaving m) with index := { c.index with built := some m } } := by
  have hlock := h.lock_eq hi rfl
  obtain ⟨hempty, t, done, hasked, hrows, hm⟩ := h.knows hi
  refine ⟨?_, ?_, ?_, fun _ hnone => (nomatch hnone), h.once, h.reads⟩
  · exact forall_callers_move (P := fun j q => q.inside = true → c.lock = some j)
      (fun _ => hlock) fun j _ => h.owner j
  · exact forall_callers_move (P := fun _ q => q.Sound (some m) c.asked) rfl
      fun j hj => h.sound_of_ne hlock hempty _ _ hj
  · -- no row is left, so that the map has all of them
    intro m' hm'
    obtain rfl : m = m' := Option.some.inj hm'
    refine ⟨t, hasked, ?_⟩
    rw [hm, reverseTable, hrows, List.append_nil]

theorem Inv.release (h : Inv c) {m : OrderedMap String Replacement}
    (hi : c.callers i = .leaving m) : Inv { c.move i (.returned m) with lock := none } := by
  have hlock := h.lock_eq hi rfl
  have hfull : c.index.built = some m := h.knows hi
  refine ⟨?_, ?_, h.whole, fun _ hempty => (nomatch hfull.symm.trans hempty), h.once,
    h.reads⟩
  · refine forall_callers_move (P := fun j q => q.inside = true → none = some j)
      (fun hin => nomatch hin) fun j hj hin => ?_
    rw [h.inside_of_ne hlock hj] at hin
    exact nomatch hin
  · exact forall_callers_move (P := fun _ q => q.Sound c.index.built c.asked) hfull
      fun j _ => h.sound j

/-- **The invariant is kept by every step.** -/
theorem Inv.step (h : Inv c) (hstep : Step c c') : Inv c' := by
  cases hstep with
  | @hit i m at_start full => exact h.move full fun hin => nomatch hin
  | @miss i at_start empty => exact h.move trivial fun hin => nomatch hin
  | @acquire i is_waiting free => exact h.acquire free
  | @hitAgain i m is_locked full => exact h.move full fun _ => h.lock_eq is_locked rfl
  | @missAgain i is_locked empty =>
    have hasked : c.asked = [] := h.knows is_locked empty
    exact h.move ⟨empty, hasked⟩ fun _ => h.lock_eq is_locked rfl
  | @ask i is_asking => exact h.ask is_asking
  | @build i row rows m is_building =>
    -- the row goes over from those that are left to those in the map
    obtain ⟨hempty, t, done, hasked, hrows, hm⟩ := h.knows is_building
    refine h.move ⟨hempty, t, done ++ [row], hasked, ?_, ?_⟩ fun _ => h.lock_eq is_building rfl
    · rw [hrows, List.append_assoc, List.singleton_append]
    · rw [List.map_append, List.map_singleton, OrderedMap.ofList_concat, ← hm]
  | @publish i m is_built => exact h.publish is_built
  | @release i m is_leaving => exact h.release is_leaving
  | change t => exact ⟨h.owner, h.sound, h.whole, h.unasked, h.once, h.reads⟩

theorem Inv.steps (h : Inv c) (hsteps : Steps c c') : Inv c' := by
  induction hsteps with
  | refl => exact h
  | tail _ hstep ih => exact ih.step hstep

/-- The field does not change once it is filled. -/
theorem Inv.built_step (h : Inv c) (hstep : Step c c') {m : OrderedMap String Replacement}
    (hm : c.index.built = some m) : c'.index.built = some m := by
  cases hstep with
  | @publish i m' is_built =>
    -- whoever publishes knows that the field is empty
    have hempty := (h.knows is_built).1
    exact nomatch hempty.symm.trans hm
  | _ => exact hm

theorem Inv.built_steps (h : Inv c) (hsteps : Steps c c') {m : OrderedMap String Replacement}
    (hm : c.index.built = some m) : c'.index.built = some m := by
  induction hsteps with
  | refl => exact hm
  | tail hsteps hstep ih => exact (h.steps hsteps).built_step hstep ih

/-! ### A caller alone -/

@[simp] theorem move_move (c : Crowd ι) (i : ι) (p q : Caller) :
    (c.move i p).move i q = c.move i q := by
  simp [move]

theorem move_eq_self {p : Caller} (hi : c.callers i = p) : c.move i p = c := by
  rw [move, ← hi, Function.update_eq_self]

/-- The rows that are left go into the map one by one. -/
theorem steps_build {rows : List (String × Deprecation)} {m : OrderedMap String Replacement}
    (hi : c.callers i = .building rows m) :
    Steps c (c.move i (.building [] (m.insertAll (rows.map reverseRow)))) := by
  induction rows generalizing c m with
  | nil =>
    rw [List.map_nil, OrderedMap.insertAll_nil, move_eq_self hi]
  | cons row rows ih =>
    have hrest := ih (callers_move_self c i
      (.building rows (m.insert (reverseRow row).1 (reverseRow row).2)))
    rw [move_move] at hrest
    exact hrest.head (.build hi)

/-- The crowd in which a caller with the lock has come further. -/
def within (c : Crowd ι) (i : ι) (p : Caller) (index : Index) (asked : List DeprecationTable) :
    Crowd ι :=
  { c.move i p with index := index, lock := some i, asked := asked }

theorem callers_within (c : Crowd ι) (i : ι) (p : Caller) (index : Index)
    (asked : List DeprecationTable) : (c.within i p index asked).callers i = p :=
  callers_move_self c i p

theorem move_within (c : Crowd ι) (i : ι) (p q : Caller) (index : Index)
    (asked : List DeprecationTable) :
    (c.within i p index asked).move i q = c.within i q index asked := by
  simp [within, move]

/-- A caller that has the lock and finds no map leaves one in the field. -/
theorem steps_within (hempty : c.index.built = none) :
    Steps (c.within i .locked c.index c.asked)
      (c.within i (.leaving (reverseTable c.tables.alternatives))
        { c.index.askAlternatives with built := some (reverseTable c.tables.alternatives) }
        (c.asked ++ [c.tables.alternatives])) := by
  have missed := Step.missAgain (callers_within c i .locked c.index c.asked) hempty
  have asked := Step.ask (callers_within c i .asking c.index c.asked)
  have built := steps_build (callers_within c i
    (.building c.tables.alternatives.toList .empty) c.index.askAlternatives
    (c.asked ++ [c.tables.alternatives]))
  have published := Step.publish (callers_within c i
    (.building [] (reverseTable c.tables.alternatives)) c.index.askAlternatives
    (c.asked ++ [c.tables.alternatives]))
  rw [move_within] at missed asked built published
  exact ((Relation.ReflTransGen.single missed).tail asked).trans (built.tail published)

/-- **A caller who is not interrupted does what `Index.force` does** and gets the map that
checks use. -/
theorem call_alone (hi : c.callers i = .start) (hlock : c.lock = none) :
    Steps c { c.move i (.returned (c.index.replacements c.tables)) with
      index := (c.index.force c.tables).1
      asked := c.asked ++ if c.index.built.isSome then [] else [c.tables.alternatives] } := by
  cases hbuilt : c.index.built with
  | some m =>
    have hforce : (c.index.force c.tables).1 = c.index := by rw [force, hbuilt]
    have hmap : c.index.replacements c.tables = m := by rw [replacements, hbuilt]; rfl
    rw [hforce, hmap, Option.isSome_some, if_pos rfl, List.append_nil]
    exact .single (.hit hi hbuilt)
  | none =>
    have hforce : (c.index.force c.tables).1
        = { c.index.askAlternatives with built := some (reverseTable c.tables.alternatives) } := by
      rw [force, hbuilt]
      rfl
    have hmap : c.index.replacements c.tables = reverseTable c.tables.alternatives := by
      rw [replacements, hbuilt]
      rfl
    rw [hforce, hmap, Option.isSome_none, if_neg Bool.false_ne_true]
    have missed : Step c (c.move i .waiting) := .miss hi hbuilt
    have acquired := Step.acquire (callers_move_self c i .waiting) hlock
    have released := Step.release (callers_within c i
      (.leaving (reverseTable c.tables.alternatives))
      { c.index.askAlternatives with built := some (reverseTable c.tables.alternatives) }
      (c.asked ++ [c.tables.alternatives]))
    rw [move_move] at acquired
    rw [move_within] at released
    -- the lock is free again, as it was
    have hfree : ∀ p index asked, ({ c.move i p with index := index, asked := asked } : Crowd ι)
        = { c.within i p index asked with lock := none } := by
      intro p index asked
      simp only [within, move, hlock]
    rw [hfree]
    exact ((Relation.ReflTransGen.single missed).tail acquired).trans
      ((steps_within hbuilt).tail released)

/-! ### Any order of steps -/

/-- **The index is built once, and all callers get it whole.**  However many callers there are,
and whatever the order of their steps and the changes of the tables in between: the table of
alternatives has been asked for once at most; the field is empty or has the reverse of the table
as it was then, and keeps it from then on; and that is what every caller has returned. -/
theorem built_once (t : Tables) (h : Steps (initial t) c) :
    c.asked.length ≤ 1 ∧ c.index.alternativesReads = c.asked.length ∧
      (c.index.built = none ∨
        ∃ a, c.asked = [a] ∧ c.index.built = some (reverseTable a)) ∧
      (∀ i m, c.callers i = .returned m →
        c.index.built = some m ∧ ∃ a, c.asked = [a] ∧ m = reverseTable a) ∧
      ∀ c', Steps c c' → ∀ m, c.index.built = some m → c'.index.built = some m := by
  have hinv : Inv c := (Inv.initial t).steps h
  refine ⟨hinv.once, hinv.reads, ?_, ?_, fun c' hsteps m hm => hinv.built_steps hsteps hm⟩
  · cases hbuilt : c.index.built with
    | none => exact Or.inl rfl
    | some m =>
      obtain ⟨a, hasked, rfl⟩ := hinv.whole m hbuilt
      exact Or.inr ⟨a, hasked, rfl⟩
  · intro i m hi
    have hfull : c.index.built = some m := hinv.knows hi
    exact ⟨hfull, hinv.whole m hfull⟩

/-- Two callers find the field empty; while the first one builds, empty tables take the place of
those whose rows it has got. -/
theorem built_once_of_race :
    let a : DeprecationTable :=
      .ofList [("new", ⟨"old", "1", ""⟩), ("newer", ⟨"old", "2", ""⟩)]
    ∃ c : Crowd Bool, Steps (initial ⟨a, .empty⟩) c ∧ c.tables = ⟨.empty, .empty⟩ ∧
      c.index.alternativesReads = 1 ∧
      (∃ m, c.callers true = .returned m ∧ m = reverseTable a) ∧
      ∃ m, c.callers false = .returned m ∧ m = reverseTable a := by
  intro a
  have missed : Steps (initial ⟨a, .empty⟩ : Crowd Bool) _ :=
    (Relation.ReflTransGen.single (.miss (i := true) rfl rfl)).tail (.miss (i := false) rfl rfl)
  have asked := ((missed.tail (.acquire (i := true) rfl rfl)).tail
    (.missAgain (i := true) rfl rfl)).tail (.ask (i := true) rfl)
  have built := ((asked.tail (.change ⟨.empty, .empty⟩)).tail
    (.build (i := true) rfl)).tail (.build (i := true) rfl)
  have first := (built.tail (.publish (i := true) rfl)).tail (.release (i := true) rfl)
  have second := ((first.tail (.acquire (i := false) rfl rfl)).tail
    (.hitAgain (i := false) rfl rfl)).tail (.release (i := false) rfl)
  obtain ⟨-, -, -, hreturned, -⟩ := built_once ⟨a, .empty⟩ second
  refine ⟨_, second, rfl, rfl, ⟨_, rfl, ?_⟩, ⟨_, rfl, ?_⟩⟩
  · obtain ⟨-, a', hasked, hm⟩ := hreturned true _ rfl
    rw [hm, ← List.head_eq_of_cons_eq hasked]
    rfl
  · obtain ⟨-, a', hasked, hm⟩ := hreturned false _ rfl
    rw [hm, ← List.head_eq_of_cons_eq hasked]
    rfl

end Crowd

end Index

end Settings
