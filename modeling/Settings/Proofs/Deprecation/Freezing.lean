import Settings.Proofs.Store.Warnings

/-!
# What an index freezes

The tables of an index may change at any time.  The reverse map is the one of the alternatives as
they stood at the first request that used it, and stays so: old keys and the replacements that
warnings name come from there.  The old key of a current key, and the deprecated keys without a
replacement, are looked up in the tables as they are at the moment of the request.

A run is described by its moves alone: `frozen?` says which table is frozen, and `tablesAfter`
what the tables are at a move.  The index has no say in either.

## Main definitions

* `Index.Move`, `Index.follow` — requests and changes of the tables, one after the other.
* `Index.frozen?`, `Index.tablesAfter` — the table that is frozen, and the tables as they are.
* `Index.Answers` — what a request is answered from.

## Main results

* `Index.index_perform` — what one move does to the index.
* `Index.answers_perform` — one request is answered from the frozen table and the present ones.
* `Index.answers_follow` — so are all requests of a run.
* `Index.freeze_discipline` — **the same from the first use of an index on.**
-/

namespace Settings

namespace Index

/-! ### Moves -/

/-- What happens to an index with its tables: somebody asks it, or changes the tables. -/
inductive Move where
  | ask (r : Request)
  | change (t : Tables)

namespace Move

/-- The reverse map is used. -/
def usesReverse : Move → Bool
  | ask .replacements => true
  | ask (.check _) => true
  | ask (.note _) => true
  | ask .shared => true
  | ask (.assign _) => true
  | _ => false

/-- The old key of a current key is looked up. -/
def looksUp : Move → Bool
  | ask (.alternativeFor _) => true
  | _ => false

/-- The key that is checked. -/
def checked? : Move → Option String
  | ask (.check key) => some key
  | ask (.note key) => some key
  | _ => none

/-- A key is checked that is not an old key of the table. -/
def misses (f : DeprecationTable) (m : Move) : Bool :=
  m.checked?.any fun key => f.toList.all (·.2.key != key)

/-- The tables after a move. -/
def alter (t : Tables) : Move → Tables
  | ask (.putAlternative key d) => { t with alternatives := t.alternatives.insert key d }
  | ask (.putDeprecated key d) => { t with deprecated := t.deprecated.insert key d }
  | ask _ => t
  | change t' => t'

/-- The answer to a move, the state afterwards, and what is logged. -/
def perform (s : State) : Move → Except Fault Answer × State × List Event
  | ask r => Index.perform s r
  | change t => (.ok .nothing, ⟨s.index, t⟩, [])

end Move

/-- The answers to moves, each with what is logged, and the state after all of them. -/
def follow (s : State) : List Move → List (Except Fault Answer × List Event) × State
  | [] => ([], s)
  | m :: ms =>
    let (answer, s, events) := m.perform s
    let (replies, s) := follow s ms
    ((answer, events) :: replies, s)

/-- Requests alone are answered as `run` answers them. -/
theorem follow_ask (s : State) (rs : List Request) : (follow s (rs.map .ask)).1 = run s rs := by
  induction rs generalizing s with
  | nil => rfl
  | cons r rs ih =>
    rw [List.map_cons, follow, run]
    exact congrArg (_ :: ·) (ih (perform s r).2.1)

/-- The tables after moves. -/
def tablesAfter (t : Tables) (ms : List Move) : Tables := ms.foldl Move.alter t

/-- The alternatives as they stand at the first move that uses the reverse map. -/
def frozen? (t : Tables) (ms : List Move) : Option DeprecationTable :=
  (ms.findIdx? Move.usesReverse).map fun i => (tablesAfter t (ms.take i)).alternatives

theorem frozen?_cons (t : Tables) (m : Move) (ms : List Move) :
    frozen? t (m :: ms)
      = if m.usesReverse then some t.alternatives else frozen? (m.alter t) ms := by
  unfold frozen?
  rw [List.findIdx?_cons]
  split
  · rfl
  · rw [Option.map_map]
    rfl

theorem isSome_frozen? (t : Tables) (ms : List Move) :
    (frozen? t ms).isSome = ms.any Move.usesReverse := by
  rw [frozen?, Option.isSome_map, List.findIdx?_isSome]

/-! ### What a request is answered from -/

/-- The request is answered from the frozen table, or from the tables as they are now: the
reverse map and the replacements are those of the frozen table, the deprecated keys without a
replacement and the old keys of current ones those of the present tables. -/
structure Answers (frozen : Option DeprecationTable) (now : Tables) (r : Request)
    (reply : Except Fault Answer × List Event) : Prop where
  replacements : r = .replacements →
    ∃ f, frozen = some f ∧ reply.1 = .ok (.replacements (reverseTable f).toList)
  alternative : ∀ key, r = .alternativeFor key →
    reply.1 = .ok (.deprecation (now.alternatives.find? key))
  warning : ∀ key, r = .check key → ∃ f w, frozen = some f ∧ reply.1 = .ok (.warning w) ∧
    w.map Warning.message = Tables.warningText? ⟨f, now.deprecated⟩ key
  logged : ∀ key, r = .note key → ∃ f, frozen = some f ∧
    reply.1 = .ok (.truth (Tables.warningText? ⟨f, now.deprecated⟩ key).isSome) ∧
    warningTexts reply.2 = (Tables.warningText? ⟨f, now.deprecated⟩ key).toList

section Check

variable (i : Index) (t : Tables) (key : String)

theorem force_eq : (i.force t).1 = ⟨some (i.replacements t),
    i.alternativesReads + (if i.built.isNone then 1 else 0), i.deprecatedReads⟩ := by
  obtain ⟨built, alternativesReads, deprecatedReads⟩ := i
  cases built <;> rfl

theorem replacements_force : (i.force t).1.replacements t = i.replacements t := by
  rw [force_eq]
  rfl

theorem warning?_check : (i.check t key).1 = (i.force t).1.warning? t key := by
  unfold check
  dsimp only
  split <;> rfl

theorem index_check : (i.check t key).2.1 = ⟨some (i.replacements t),
    i.alternativesReads + (if i.built.isNone then 1 else 0),
    i.deprecatedReads + (if (i.replacements t).contains key then 0 else 1)⟩ := by
  unfold check
  dsimp only
  rw [replacements_force, force_eq]
  cases (i.replacements t).contains key <;> rfl

end Check

theorem contains_reverseTable (f : DeprecationTable) (key : String) :
    (reverseTable f).contains key = f.toList.any (·.2.key == key) := by
  rw [OrderedMap.contains, find?_reverseTable, Option.isSome_map]
  cases hlast : (f.toList.filter (·.2.key == key)).getLast? with
  | none =>
    rw [List.getLast?_eq_none_iff, List.filter_eq_nil_iff] at hlast
    rw [Option.isSome_none, eq_comm, List.any_eq_false]
    exact hlast
  | some row =>
    have hrow := List.mem_filter.1 (List.mem_of_getLast? hlast)
    rw [Option.isSome_some, eq_comm, List.any_eq_true]
    exact ⟨row, hrow⟩

/-- The warning about a key depends on the reverse map and on the deprecated keys alone. -/
theorem message_warning?_of_replacements {i : Index} {t : Tables} {f : DeprecationTable}
    (h : i.replacements t = reverseTable f) (key : String) :
    (i.warning? t key).map Warning.message = Tables.warningText? ⟨f, t.deprecated⟩ key := by
  let j : Index := ⟨some (reverseTable f), 0, 0⟩
  have hagrees : j.Agrees ⟨f, t.deprecated⟩ := fun r hr => (Option.some.inj hr).symm
  have hsame : i.warning? t key = j.warning? ⟨f, t.deprecated⟩ key := by
    unfold warning?
    rw [h]
    rfl
  rw [hsame]
  exact message_warning? hagrees key

/-- **One request is answered** from the frozen table, if it uses the reverse map and that is
the reverse of the frozen table, and from the tables as they are otherwise. -/
theorem answers_perform {s : State} {frozen : Option DeprecationTable} {r : Request}
    (h : (Move.ask r).usesReverse = true →
      ∃ f, frozen = some f ∧ s.index.replacements s.tables = reverseTable f) :
    Answers frozen s.tables r ((perform s r).1, (perform s r).2.2) where
  replacements := by
    rintro rfl
    obtain ⟨f, hf, hmap⟩ := h rfl
    refine ⟨f, hf, ?_⟩
    change Except.ok (Answer.replacements
      ((s.index.force s.tables).1.replacements s.tables).toList) = _
    rw [replacements_force, hmap]
  alternative := by
    rintro key rfl
    rfl
  warning := by
    rintro key rfl
    obtain ⟨f, hf, hmap⟩ := h rfl
    refine ⟨f, (s.index.check s.tables key).1, hf, rfl, ?_⟩
    rw [warning?_check]
    exact message_warning?_of_replacements ((replacements_force _ _).trans hmap) key
  logged := by
    rintro key rfl
    obtain ⟨f, hf, hmap⟩ := h rfl
    have hmessage := message_warning?_of_replacements
      ((replacements_force s.index s.tables).trans hmap) key
    refine ⟨f, hf, ?_, ?_⟩
    · have hanswer : (perform s (.note key)).1
          = .ok (.truth ((s.index.force s.tables).1.warning? s.tables key).isSome) := by
        rw [← warning?_check]
        rfl
      rw [hanswer, ← hmessage, Option.isSome_map]
    · have hevents : (perform s (.note key)).2.2 = (s.index.note s.tables key).2.2 := rfl
      rw [hevents, events_note, warningTexts_append, warningTexts_force, ← hmessage]
      cases (s.index.force s.tables).1.warning? s.tables key <;> rfl

/-! ### What a move does to the index -/

section Move

variable (s : State) (m : Move)

theorem tables_perform : (m.perform s).2.1.tables = m.alter s.tables := by
  cases m with
  | ask r => cases r <;> rfl
  | change t => rfl

/-- **What one move does to the index.**  The reverse map is built by the moves that use it, and
changed by none.  The alternatives are asked for by every look-up, and by the one move that
builds the reverse map; the deprecated keys by every check of a key that is not in it. -/
theorem index_perform : (m.perform s).2.1.index =
    ⟨if m.usesReverse then some (s.index.replacements s.tables) else s.index.built,
      s.index.alternativesReads + (if m.usesReverse && s.index.built.isNone then 1 else 0)
        + (if m.looksUp then 1 else 0),
      s.index.deprecatedReads + (if m.checked?.any fun key =>
        !(s.index.replacements s.tables).contains key then 1 else 0)⟩ := by
  have hcheck : ∀ key, (s.index.check s.tables key).2.1 =
      ⟨some (s.index.replacements s.tables),
        s.index.alternativesReads + (if s.index.built.isNone then 1 else 0),
        s.index.deprecatedReads
          + (if !(s.index.replacements s.tables).contains key then 1 else 0)⟩ := by
    intro key
    rw [index_check]
    cases (s.index.replacements s.tables).contains key <;> rfl
  cases m with
  | ask r =>
    cases r with
    | replacements => exact force_eq s.index s.tables
    | check key => exact hcheck key
    | note key => exact hcheck key
    | shared => exact force_eq s.index s.tables
    | assign key => exact force_eq s.index s.tables
    | _ => rfl
  | change t => rfl

theorem usesReverse_of_checked? {m : Move} {key : String} (h : m.checked? = some key) :
    m.usesReverse = true := by
  cases m with
  | ask r =>
    cases r with
    | check key => rfl
    | note key => rfl
    | _ => exact nomatch h
  | change t => exact nomatch h

/-- Of a frozen table the checks miss the keys that are no old keys of it. -/
theorem misses_eq {f : DeprecationTable}
    (h : m.usesReverse = true → s.index.replacements s.tables = reverseTable f) :
    m.misses f = m.checked?.any fun key => !(s.index.replacements s.tables).contains key := by
  unfold Move.misses
  cases hkey : m.checked? with
  | none => rfl
  | some key =>
    rw [Option.any_some, Option.any_some, h (usesReverse_of_checked? hkey), contains_reverseTable,
      List.not_any_eq_all_not]
    rfl

end Move

/-! ### Runs -/

section Run

variable {s : State} {f? : Option DeprecationTable}

/-- The table that is frozen after a move, if it was the given one before. -/
def Move.freeze (f? : Option DeprecationTable) (t : Tables) (m : Move) :
    Option DeprecationTable :=
  if m.usesReverse then some (f?.getD t.alternatives) else f?

theorem freeze_or_frozen? (f? : Option DeprecationTable) (t : Tables) (m : Move)
    (ms : List Move) :
    (m.freeze f? t).or (frozen? (m.alter t) ms) = f?.or (frozen? t (m :: ms)) := by
  rw [frozen?_cons, Move.freeze]
  split
  · cases f? <;> rfl
  · rfl

/-- A move that uses the reverse map uses that of the table frozen in the end. -/
theorem replacements_of_usesReverse (h : s.index.built = f?.map reverseTable) {m : Move}
    (ms : List Move) (hm : m.usesReverse = true) :
    ∃ f, f?.or (frozen? s.tables (m :: ms)) = some f ∧
      s.index.replacements s.tables = reverseTable f := by
  rw [frozen?_cons, if_pos hm, replacements, h]
  cases f? with
  | none => exact ⟨_, rfl, rfl⟩
  | some f => exact ⟨f, rfl, rfl⟩

theorem built_perform_of_frozen (h : s.index.built = f?.map reverseTable) (m : Move) :
    (m.perform s).2.1.index.built = (m.freeze f? s.tables).map reverseTable := by
  rw [index_perform, Move.freeze]
  dsimp only
  split
  · rw [replacements, h]
    cases f? <;> rfl
  · exact h

theorem follow_cons (s : State) (m : Move) (ms : List Move) :
    follow s (m :: ms) = (((m.perform s).1, (m.perform s).2.2) :: (follow (m.perform s).2.1 ms).1,
      (follow (m.perform s).2.1 ms).2) := rfl

/-- **All requests of a run** are answered from the table that is frozen in the end and from
the tables as they are at the request. -/
theorem answers_follow (h : s.index.built = f?.map reverseTable) (ms : List Move)
    {i : Nat} {r : Request} (hi : ms[i]? = some (.ask r)) :
    ∃ reply, (follow s ms).1[i]? = some reply ∧
      Answers (f?.or (frozen? s.tables ms)) (tablesAfter s.tables (ms.take i)) r reply := by
  -- The state and the frozen table are those before the move, so both change along the run.
  induction ms generalizing s f? i with
  | nil => exact nomatch hi
  | cons m ms ih =>
    rw [follow_cons]
    cases i with
    | zero =>
      obtain rfl : m = .ask r := Option.some.inj hi
      exact ⟨_, rfl, answers_perform (replacements_of_usesReverse h ms)⟩
    | succ i =>
      obtain ⟨reply, hreply, hanswers⟩ := ih (built_perform_of_frozen h m) hi
      rw [tables_perform, freeze_or_frozen?] at hanswers
      exact ⟨reply, hreply, hanswers⟩

/-- The alternatives are asked for by the look-ups of a run, and once more if the run uses the
reverse map first. -/
theorem alternativesReads_follow (s : State) (ms : List Move) :
    (follow s ms).2.index.alternativesReads = s.index.alternativesReads
      + (if ms.any Move.usesReverse && s.index.built.isNone then 1 else 0)
      + ms.countP Move.looksUp := by
  induction ms generalizing s with
  | nil => rfl
  | cons m ms ih =>
    rw [follow_cons, ih, index_perform, List.any_cons, List.countP_cons]
    dsimp only
    cases m.usesReverse with
    | true =>
      -- the map is there from now on, so that the rest of the run does not ask for it
      simp only [Bool.true_and, Bool.true_or, if_true, Option.isNone_some, Bool.and_false]
      simp only [Bool.false_eq_true, if_false]
      omega
    | false =>
      simp only [Bool.false_and, Bool.false_or, Bool.false_eq_true, if_false]
      omega

/-- The deprecated keys are asked for by the checks of a run whose key is not an old key of the
table that is frozen in the end. -/
theorem deprecatedReads_follow (h : s.index.built = f?.map reverseTable) (ms : List Move)
    {f : DeprecationTable} (hf : ∀ g, f?.or (frozen? s.tables ms) = some g → g = f) :
    (follow s ms).2.index.deprecatedReads
      = s.index.deprecatedReads + ms.countP (Move.misses f) := by
  induction ms generalizing s f? with
  | nil => rfl
  | cons m ms ih =>
    have hrest : ∀ g, (m.freeze f? s.tables).or (frozen? (m.perform s).2.1.tables ms) = some g →
        g = f := by
      intro g hg
      rw [tables_perform, freeze_or_frozen?] at hg
      exact hf g hg
    have hmap : m.usesReverse = true → s.index.replacements s.tables = reverseTable f := by
      intro hm
      obtain ⟨g, hg, hmap⟩ := replacements_of_usesReverse h ms hm
      rw [hmap, hf g hg]
    rw [follow_cons, ih (built_perform_of_frozen h m) hrest, index_perform, List.countP_cons,
      misses_eq s m hmap]
    dsimp only
    omega

end Run

/-- **The freeze discipline.**  Whatever is asked of a new index and however its tables change
meanwhile, the reverse map and the replacements in warnings are those of the alternatives as
they stood at the first request that uses the reverse map; everything else is looked up in
the tables of the moment.  The alternatives are asked for once if the reverse map is ever used and
once for each look-up, the deprecated keys once for each check of a key that is no old key of
the frozen table. -/
theorem freeze_discipline (t : Tables) (ms : List Move) :
    (∀ i r, ms[i]? = some (.ask r) → ∃ reply, (follow ⟨fresh, t⟩ ms).1[i]? = some reply ∧
      Answers (frozen? t ms) (tablesAfter t (ms.take i)) r reply) ∧
    (follow ⟨fresh, t⟩ ms).2.index.alternativesReads
      = (if ms.any Move.usesReverse then 1 else 0) + ms.countP Move.looksUp ∧
    (follow ⟨fresh, t⟩ ms).2.index.deprecatedReads
      = (frozen? t ms).elim 0 fun f => ms.countP (Move.misses f) := by
  have hbuilt : (State.mk fresh t).index.built
      = (none : Option DeprecationTable).map reverseTable := rfl
  refine ⟨fun i r hi => answers_follow hbuilt ms hi, ?_, ?_⟩
  · rw [alternativesReads_follow]
    simp [fresh]
  · cases hf : frozen? t ms with
    | some f =>
      have hreads := deprecatedReads_follow hbuilt ms (f := f) (fun g hg => by
        rw [Option.none_or, hf] at hg
        exact (Option.some.inj hg).symm)
      rw [hreads, Option.elim_some]
      exact Nat.zero_add _
    | none =>
      have hnever : ∀ m ∈ ms, ¬ m.usesReverse = true := by
        rw [← List.any_eq_false, ← isSome_frozen? t, hf]
        rfl
      have hreads := deprecatedReads_follow hbuilt ms (f := .empty) (fun g hg => by
        rw [Option.none_or, hf] at hg
        exact nomatch hg)
      have hzero : ms.countP (Move.misses .empty) = 0 := by
        rw [List.countP_eq_zero]
        intro m hm hmiss
        obtain ⟨key, hkey, -⟩ := (Option.any_eq_true _ _).1 hmiss
        exact hnever m hm (usesReverse_of_checked? hkey)
      rw [hreads, hzero]
      rfl

/-- The table is replaced after the first check: the old key of before is still warned about,
and the old key of now is looked up. -/
theorem freeze_discipline_of_replaced_table :
    let before : Tables := ⟨.ofList [("new", ⟨"old", "1", ""⟩)], .empty⟩
    let now : Tables := ⟨.ofList [("new", ⟨"older", "2", ""⟩)], .empty⟩
    let ms := [.ask (.check "x"), .change now, .ask (.check "old"), .ask (.alternativeFor "new")]
    (∃ reply w, (follow ⟨fresh, before⟩ ms).1[2]? = some reply ∧ reply.1 = .ok (.warning w) ∧
        w.map Warning.message = before.warningText? "old") ∧
      (∃ reply, (follow ⟨fresh, before⟩ ms).1[3]? = some reply ∧
        reply.1 = .ok (.deprecation (some ⟨"older", "2", ""⟩))) ∧
      (follow ⟨fresh, before⟩ ms).2.index.alternativesReads = 2 ∧
      (follow ⟨fresh, before⟩ ms).2.index.deprecatedReads = 1 := by
  intro before now ms
  obtain ⟨hanswers, halternatives, hdeprecated⟩ := freeze_discipline before ms
  have hfrozen : frozen? before ms = some before.alternatives := rfl
  refine ⟨?_, ?_, halternatives, ?_⟩
  · obtain ⟨reply, hreply, hanswer⟩ := hanswers 2 (.check "old") rfl
    obtain ⟨f, w, hf, hw, hmessage⟩ := hanswer.warning "old" rfl
    obtain rfl : before.alternatives = f := Option.some.inj (hfrozen.symm.trans hf)
    exact ⟨reply, w, hreply, hw, hmessage⟩
  · obtain ⟨reply, hreply, hanswer⟩ := hanswers 3 (.alternativeFor "new") rfl
    exact ⟨reply, hreply, hanswer.alternative "new" rfl⟩
  · rw [hdeprecated, hfrozen]
    rfl

end Index

end Settings
