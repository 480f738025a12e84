import Mathlib
import Settings.Proofs.Deprecation.Freezing
import Settings.Proofs.OrderedMap
import Settings.Proofs.Store.Migration

/-!
# The reverse of the alternatives

The reverse map is built row by row, and a later row overwrites an earlier one with the same old
key in its place.  So an old key stands where it occurs first among the rows, and goes back to the
current key of the row where it occurs last.  The way from a current key to its old key and back
ends at the last row of that old key, which is another one than it began at as soon as two rows
share the old key.

## Main definitions

* `LastRow` — the last row of a table that has an old key.
* `oldKeys` — the old keys of a table, row by row.
* `Reverses` — some pairs are the reverse of a table.
* `Index.Move.KeepsAlternatives` — the table of alternatives stays as it is.
* `Index.Over` — an index over a table has no other reverse map than that of the table.

## Main results

* `mem_reverseTable_iff`, `keys_reverseTable` — the pairs of the reverse map, and their order.
* `back_iff_nodup` — the way there and back leads home for all keys if no old key is shared.
* `Index.Over.perform`, `Index.Over.follow` — an index keeps the reverse of a table that stays.
* `Index.reverse_of_alternatives` — **an index answers with the reverse of its alternatives.**
-/

namespace Settings

/-! ### Rows and their old keys -/

/-- The row has the old key, and no later one of the table has it. -/
def LastRow (rows : List (String × Deprecation)) (old : String) (row : String × Deprecation) :
    Prop :=
  ∃ before after, rows = before ++ row :: after ∧ row.2.key = old ∧
    ∀ later ∈ after, later.2.key ≠ old

/-- The old keys of a table, row by row. -/
def oldKeys (alternatives : DeprecationTable) : List String :=
  alternatives.toList.map fun row => row.2.key

theorem getLast?_filter_eq_some_iff (rows : List (String × Deprecation)) (old : String)
    (row : String × Deprecation) :
    (rows.filter (·.2.key == old)).getLast? = some row ↔ LastRow rows old row := by
  rw [List.getLast?_filter, List.find?_eq_some_iff_append]
  constructor
  · rintro ⟨hkey, later, earlier, hrows, hlater⟩
    refine ⟨earlier.reverse, later.reverse, ?_, by simpa using hkey, by simpa using hlater⟩
    rw [← List.reverse_reverse rows, hrows]
    simp
  · rintro ⟨before, after, rfl, hkey, hafter⟩
    exact ⟨by simpa using hkey, after.reverse, before.reverse, by simp, by simpa using hafter⟩

/-- **The pairs of the reverse map** are the last rows of the old keys. -/
theorem mem_reverseTable_iff (alternatives : DeprecationTable) (old : String) (r : Replacement) :
    (old, r) ∈ (reverseTable alternatives).toList ↔
      LastRow alternatives.toList old (r.newKey, r.deprecation) := by
  rw [← OrderedMap.find?_eq_some_iff, find?_reverseTable, Option.map_eq_some_iff,
    ← getLast?_filter_eq_some_iff]
  constructor
  · rintro ⟨row, hrow, rfl⟩
    exact hrow
  · intro h
    exact ⟨_, h, rfl⟩

/-- **Their keys** are the old keys, each where it occurs first. -/
theorem keys_reverseTable (alternatives : DeprecationTable) :
    (reverseTable alternatives).keys = (oldKeys alternatives).eraseDups := by
  rw [reverseTable, OrderedMap.keys_ofList, List.map_map]
  rfl

/-! ### There and back -/

section Back

variable {alternatives : DeprecationTable}

/-- The reverse map has a pair for the old key of every row. -/
theorem exists_reverse {row : String × Deprecation} (h : row ∈ alternatives.toList) :
    ∃ r, (reverseTable alternatives).find? row.2.key = some r := by
  have hmem : row.2.key ∈ (reverseTable alternatives).keys := by
    rw [keys_reverseTable, List.mem_eraseDups]
    exact List.mem_map_of_mem h
  exact Option.isSome_iff_exists.1 ((OrderedMap.contains_iff _ _).2 hmem)

/-- From a row its old key leads back to the current key of a row with the same old key. -/
theorem mem_of_reverse {old : String} {r : Replacement}
    (h : (reverseTable alternatives).find? old = some r) :
    (r.newKey, r.deprecation) ∈ alternatives.toList ∧ r.deprecation.key = old := by
  obtain ⟨hfind, hkey⟩ := alternative_of_reverseTable h
  exact ⟨(alternatives.find?_eq_some_iff _ _).1 hfind, hkey⟩

/-- **The way there and back leads home for all keys if no old key is shared**, and only then. -/
theorem back_iff_nodup :
    (∀ row ∈ alternatives.toList,
        ((reverseTable alternatives).find? row.2.key).map (·.newKey) = some row.1) ↔
      (oldKeys alternatives).Nodup := by
  have hrows : alternatives.toList.Nodup := List.Nodup.of_map _ alternatives.nodup
  rw [oldKeys, List.nodup_map_iff_inj_on hrows]
  constructor
  · intro hback row hrow row' hrow' hkey
    -- the old key that they share leads back to both
    have hnew : row.1 = row'.1 :=
      Option.some.inj ((hback row hrow).symm.trans (hkey ▸ hback row' hrow'))
    have hvalue := (alternatives.find?_eq_some_iff row.1 row.2).2 hrow
    rw [hnew, (alternatives.find?_eq_some_iff row'.1 row'.2).2 hrow'] at hvalue
    exact Prod.ext hnew (Option.some.inj hvalue).symm
  · intro hinj row hrow
    obtain ⟨r, hr⟩ := exists_reverse hrow
    obtain ⟨hmem, hkey⟩ := mem_of_reverse hr
    rw [hr, Option.map_some, ← hinj _ hmem _ hrow hkey]

end Back

/-- The pairs are the reverse of a table, in which the last row with an old key wins. -/
structure Reverses (alternatives : DeprecationTable) (pairs : List (String × Replacement)) :
    Prop where
  /-- An old key goes to the last row that has it. -/
  last : ∀ old new d, (old, Replacement.mk new d) ∈ pairs ↔
    LastRow alternatives.toList old (new, d)
  /-- The keys are the old keys of the rows. -/
  keys : ∀ old, old ∈ pairs.map Prod.fst ↔ old ∈ oldKeys alternatives
  /-- No key occurs twice. -/
  nodup : (pairs.map Prod.fst).Nodup
  /-- The keys stand in the order in which they occur first among the rows. -/
  ordered : (pairs.map Prod.fst).Pairwise fun a b =>
    (oldKeys alternatives).idxOf a < (oldKeys alternatives).idxOf b
  /-- The current key of a pair has the old key of the pair. -/
  alternative : ∀ old new d, (old, Replacement.mk new d) ∈ pairs →
    alternatives.find? new = some d ∧ d.key = old
  /-- The old key of every current key is there. -/
  covers : ∀ new ∈ alternatives.keys, ∃ d r,
    alternatives.find? new = some d ∧ (d.key, r) ∈ pairs
  /-- From every current key the way to its old key and back leads home if no two rows share
  an old key, and only then. -/
  back : (∀ new ∈ alternatives.keys, ∃ d r,
      alternatives.find? new = some d ∧ pairs.lookup d.key = some r ∧ r.newKey = new) ↔
    (oldKeys alternatives).Nodup

/-- **The reverse map is the reverse of its table.** -/
theorem reverses_reverseTable (alternatives : DeprecationTable) :
    Reverses alternatives (reverseTable alternatives).toList where
  last := fun old new d => mem_reverseTable_iff alternatives old ⟨new, d⟩
  keys := by
    intro old
    change old ∈ (reverseTable alternatives).keys ↔ _
    rw [keys_reverseTable, List.mem_eraseDups]
  nodup := (reverseTable alternatives).nodup
  ordered := by
    have hkeys := pairwise_idxOf_eraseDups (oldKeys alternatives)
    rw [← keys_reverseTable] at hkeys
    exact hkeys
  alternative := by
    intro old new d h
    exact alternative_of_reverseTable ((OrderedMap.find?_eq_some_iff _ _ _).2 h)
  covers := by
    intro new hnew
    obtain ⟨row, hrow, rfl⟩ := List.mem_map.1 hnew
    obtain ⟨r, hr⟩ := exists_reverse hrow
    exact ⟨row.2, r, (alternatives.find?_eq_some_iff _ _).2 hrow,
      (OrderedMap.find?_eq_some_iff _ _ _).1 hr⟩
  back := by
    rw [← back_iff_nodup]
    constructor
    · intro h row hrow
      obtain ⟨d, r, hd, hr, hnew⟩ := h row.1 (List.mem_map_of_mem hrow)
      obtain rfl : row.2 = d :=
        Option.some.inj (((alternatives.find?_eq_some_iff _ _).2 hrow).symm.trans hd)
      exact (congrArg (Option.map (·.newKey)) hr).trans (congrArg some hnew)
    · intro h new hnew
      obtain ⟨row, hrow, rfl⟩ := List.mem_map.1 hnew
      obtain ⟨r, hr, hback⟩ := Option.map_eq_some_iff.1 (h row hrow)
      exact ⟨row.2, r, (alternatives.find?_eq_some_iff _ _).2 hrow, hr, hback⟩

namespace Index

/-! ### An index over a table that stays -/

/-- The move leaves the table of alternatives as it is. -/
def Move.KeepsAlternatives (m : Move) : Prop := ∀ t, (m.alter t).alternatives = t.alternatives

/-- The index is over a table of alternatives, and what it reads as their reverse is that. -/
structure Over (s : State) (alternatives : DeprecationTable) : Prop where
  /-- The alternatives are those of the table. -/
  table : s.tables.alternatives = alternatives
  /-- The reverse map is the one of the table. -/
  replacements : s.index.replacements s.tables = reverseTable alternatives

/-- One move that leaves the alternatives alone leaves their reverse alone, be the map built by
it, or there before, or still missing. -/
theorem Over.perform {s : State} {alternatives : DeprecationTable} (h : Over s alternatives)
    {m : Move} (hm : m.KeepsAlternatives) : Over (m.perform s).2.1 alternatives where
  table := by
    rw [tables_perform, hm, h.table]
  replacements := by
    rw [Index.replacements, index_perform, tables_perform, hm, h.table]
    dsimp only
    split
    · rw [Option.getD_some, h.replacements]
    · have hreplacements := h.replacements
      rw [Index.replacements, h.table] at hreplacements
      exact hreplacements

theorem Over.follow {s : State} {alternatives : DeprecationTable} (h : Over s alternatives)
    {ms : List Move} (hms : ∀ m ∈ ms, m.KeepsAlternatives) :
    Over (follow s ms).2 alternatives := by
  induction ms generalizing s with
  | nil => exact h
  | cons m ms ih =>
    rw [follow_cons]
    exact ih (h.perform (hms m List.mem_cons_self))
      fun m' hm' => hms m' (List.mem_cons_of_mem m hm')

theorem over_fresh (t : Tables) : Over ⟨fresh, t⟩ t.alternatives := ⟨rfl, rfl⟩

/-- **An index answers with the reverse of its alternatives**, as long as these stay as they are,
and with their rows as they are. -/
theorem reverse_of_alternatives (t : Tables) {ms : List Move}
    (hms : ∀ m ∈ ms, m.KeepsAlternatives) :
    let s := (follow ⟨fresh, t⟩ ms).2
    ∃ pairs, (Index.perform s .replacements).1 = .ok (.replacements pairs) ∧
      (∀ new, (Index.perform s (.alternativeFor new)).1
        = .ok (.deprecation (t.alternatives.find? new))) ∧
      Reverses t.alternatives pairs := by
  intro s
  have hover : Over s t.alternatives := (over_fresh t).follow hms
  refine ⟨(reverseTable t.alternatives).toList, ?_, ?_, reverses_reverseTable t.alternatives⟩
  · change Except.ok (Answer.replacements
      ((s.index.force s.tables).1.replacements s.tables).toList) = _
    rw [replacements_force, hover.replacements]
  · intro new
    change Except.ok (Answer.deprecation (s.tables.alternatives.find? new)) = _
    rw [hover.table]

/-- Of two rows that share an old key the later one is gone back to, also from the earlier. -/
theorem reverse_of_shared_old_key :
    let t : Tables := ⟨.ofList [("new", ⟨"old", "1", ""⟩), ("newer", ⟨"old", "2", ""⟩),
      ("k", ⟨"k", "3", ""⟩)], .empty⟩
    let ms : List Move := [.ask (.check "x"), .ask (.putDeprecated "k" ⟨"k", "3", "Unused."⟩)]
    (∀ m ∈ ms, m.KeepsAlternatives) ∧
      ∃ pairs, (Index.perform (follow ⟨fresh, t⟩ ms).2 .replacements).1
          = .ok (.replacements pairs) ∧
        ("old", ⟨"newer", ⟨"old", "2", ""⟩⟩) ∈ pairs ∧ "k" ∈ pairs.map Prod.fst ∧
        ¬ ∀ new ∈ t.alternatives.keys, ∃ d r, t.alternatives.find? new = some d ∧
          pairs.lookup d.key = some r ∧ r.newKey = new := by
  intro t ms
  have hms : ∀ m ∈ ms, m.KeepsAlternatives := by
    simp [ms, Move.KeepsAlternatives, Move.alter]
  obtain ⟨pairs, hpairs, -, hreverses⟩ := reverse_of_alternatives t hms
  refine ⟨hms, pairs, hpairs, ?_, ?_, ?_⟩
  · refine (hreverses.last _ _ _).2 ⟨[("new", ⟨"old", "1", ""⟩)], [("k", ⟨"k", "3", ""⟩)], rfl, rfl,
      ?_⟩
    simp
  · exact (hreverses.keys "k").2 (by decide)
  · rw [hreverses.back]
    decide

end Index

end Settings
