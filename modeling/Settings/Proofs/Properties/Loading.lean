import Settings.Proofs.OrderedMap
import Settings.Proofs.Properties.Line
import Settings.Proofs.Store.Contents
import Settings.Proofs.Text.Utf8
import Settings.Session

/-!
# Loading what has been written

A file that is written line by line gives back the properties that its lines bind: of several
lines with one key the last one counts, be it without a value, and the place of the key is
that of the first.  The reader skips blanks between statements, line ends among them, so that
the induction on the lines is about the text from its first character that is not blank.

## Main definitions

* `fileText` — the text of a file of lines.
* `bindings`, `lastValue?` — the keys that lines name, and what the last line says of one.

## Main results

* `statements_fileText` — the statements of a file are those of its lines.
* `toList_properties` — the properties that statements leave, as the last line has it.
* `load_fileText` — **a file gives back what its lines bind, and so does a store made of it.**
-/

namespace Settings

namespace Properties

open Text

/-! ### Files of lines -/

/-- The text of a file of lines. -/
def fileText (ls : List Line) : List Char := ls.flatMap fun l => l.render ++ ['\n']

/-- The keys that lines name, each with what its line says of it. -/
def bindings (ls : List Line) : List (String × Option String) :=
  ls.filterMap Line.binding?

/-- The value that the last line with a key gives it, if any. -/
def lastValue? (ls : List Line) (key : String) : Option String :=
  ((bindings ls).filter (·.1 == key)).getLast?.bind Prod.snd

theorem fileText_cons (l : Line) (ls : List Line) :
    fileText (l :: ls) = l.render ++ '\n' :: fileText ls := by
  rw [fileText, List.flatMap_cons, List.append_assoc]
  rfl

theorem no_return_fileText (ls : List Line) : '\r' ∉ fileText ls := by
  intro h
  obtain ⟨l, -, hl⟩ := List.mem_flatMap.1 h
  rcases List.mem_append.1 hl with hl | hl
  · exact l.no_return hl
  · exact absurd hl (by decide)

theorem normaliseLines_eq_self {cs : List Char} (h : '\r' ∉ cs) : normaliseLines cs = cs := by
  induction cs with
  | nil => rfl
  | cons c cs ih =>
    rw [List.mem_cons, not_or] at h
    have hreturn : c ≠ '\r' := Ne.symm h.1
    rw [normaliseLines, ih h.2] <;> simp [hreturn]

theorem dropMark_eq_self {cs : List Char} (h : cs.head? ≠ some '\ufeff') : dropMark cs = cs := by
  unfold dropMark
  split
  · exact absurd rfl h
  · rfl

/-! ### Statements -/

theorem statements_of_blank {n : Nat} {cs : List Char} (h : cs.dropWhile isBlank = []) :
    statements n cs = [] := by
  rw [statements]
  dsimp only
  rw [dif_pos h]

theorem statements_of_read {n : Nat} {cs start rest : List Char} {st : Statement}
    (hstart : cs.dropWhile isBlank = start) (hne : start ≠ [])
    (hread : readStatement start = (st, rest)) :
    ∃ m, statements n cs = (n, st) :: statements m rest := by
  subst hstart
  refine ⟨n + (cs.count '\n' - rest.count '\n'), ?_⟩
  rw [statements]
  dsimp only
  rw [dif_neg hne, hread]

/-- The statements of a file are those of its lines. -/
theorem statements_fileText (ls : List Line) (n : Nat) :
    (statements n (fileText ls)).map Prod.snd = ls.filterMap Line.statement? := by
  -- the induction is for all texts that agree from the first character that is not blank on:
  -- a blank line is then nothing to be read
  have key : ∀ (n : Nat) (cs : List Char),
      cs.dropWhile isBlank = (fileText ls).dropWhile isBlank →
      (statements n cs).map Prod.snd = ls.filterMap Line.statement? := by
    induction ls with
    | nil =>
      intro n cs hcs
      rw [statements_of_blank hcs]
      rfl
    | cons l ls ih =>
      intro n cs hcs
      rw [fileText_cons] at hcs
      cases hst : l.statement? with
      | none =>
        rw [List.filterMap_cons_none hst]
        exact ih n cs (hcs.trans (l.dropWhile_render hst (fileText ls)))
      | some st =>
        obtain ⟨c, tail, hfirst, hblank⟩ := l.first_render hst (fileText ls)
        rw [hfirst, List.dropWhile_cons, hblank, if_neg Bool.false_ne_true, ← hfirst] at hcs
        have hne : l.render ++ '\n' :: fileText ls ≠ [] := hfirst ▸ List.cons_ne_nil c tail
        obtain ⟨m, hm⟩ := statements_of_read (n := n) hcs hne
          (l.readStatement_render hst (fileText ls))
        rw [hm, List.map_cons, List.filterMap_cons_some hst, ih m (fileText ls) rfl]
  exact key n (fileText ls) rfl

/-! ### Properties -/

/-- The properties that statements leave: for each key, where it is named first, the value
that it has where it is named last. -/
theorem toList_properties (sts : List Statement) :
    (properties sts).toList = ((sts.filterMap Statement.pair?).map Prod.fst).eraseDups.filterMap
      fun key => (((sts.filterMap Statement.pair?).filter (·.1 == key)).getLast?.bind Prod.snd).map
        (key, ·) := by
  rw [properties, OrderedMap.toList_somes, OrderedMap.keys_ofList]
  refine List.filterMap_congr fun key _ => ?_
  rw [OrderedMap.ofList, OrderedMap.find?_insertAll, OrderedMap.find?_empty, Option.or_none]
  cases ((sts.filterMap Statement.pair?).filter (·.1 == key)).getLast? <;> rfl

theorem warnings_eq_nil {sts : List (Nat × Statement)} (h : ∀ st ∈ sts.map Prod.snd, st ≠ .bad) :
    warnings sts = [] := by
  rw [warnings, List.filterMap_eq_nil_iff]
  intro p hp
  rw [if_neg (h p.2 (List.mem_map_of_mem hp))]

/-- What becomes of a file whose octets stand for a text. -/
theorem load_of_encode {files : Files} {path : Path} {text : List Char}
    (hfile : files path = some (Utf8.encode text)) :
    load files path = (.ok (properties ((parse text).map Prod.snd)), .loading path ::
      warnings (parse text) ++ [.loaded (properties ((parse text).map Prod.snd)).size path]) := by
  rw [load, hfile]
  dsimp only
  rw [Utf8.decode_encode]

/-- The properties of a file whose octets stand for a text without bad statements. -/
theorem load_of_text {files : Files} {path : Path} {text : List Char}
    (hfile : files path = some (Utf8.encode text))
    (hgood : ∀ st ∈ (parse text).map Prod.snd, st ≠ .bad) :
    load files path = (.ok (properties ((parse text).map Prod.snd)),
      [.loading path, .loaded (properties ((parse text).map Prod.snd)).size path]) := by
  rw [load_of_encode hfile, warnings_eq_nil hgood]
  rfl

end Properties

/-! ### Stores -/

/-- A new store has the pairs of a map of texts, in their order. -/
theorem Store.toList_create (t : Tables) (m : OrderedMap String String) :
    (create t (some (m.toList.map fun p => (.text p.1, .text p.2)))).1.toList
      = m.toList.map ofTextPair := by
  have htexts : ((m.toList.map fun p => ((.text p.1, .text p.2) : Value × Value)).filterMap
      fun p => p.1.text?) = m.toList.map Prod.fst := by
    rw [List.filterMap_map, ← List.filterMap_eq_map]
    rfl
  have hseed : seedPairs (m.toList.map fun p => (.text p.1, .text p.2)) = m.toList := by
    rw [seedPairs_of_nodup (htexts ▸ m.nodup), List.filterMap_map]
    exact List.filterMap_some
  have hcreate : (create t (some (m.toList.map fun p => (.text p.1, .text p.2)))).1
      = ((fresh t).writeAll m.toList).1 := congrArg (fun ps => ((fresh t).writeAll ps).1) hseed
  rw [hcreate]
  exact toList_writeAll_fresh t m.nodup

namespace Properties

open Text

/-- **A file gives back what its lines bind, and so does a store made of it.** -/
theorem load_fileText (ls : List Line) (files : Files) (path : Path)
    (hmark : (fileText ls).head? ≠ some '\ufeff')
    (hfile : files path = some (String.ofList (fileText ls)).toUTF8.data.toList) :
    ∃ found : OrderedMap String String,
      found.toList = ((bindings ls).map Prod.fst).eraseDups.filterMap
        (fun key => (lastValue? ls key).map (key, ·)) ∧
      load files path = (.ok found, [.loading path, .loaded found.size path]) ∧
      ∀ here place t, locate here here place = .ok path →
        ∃ s more, Store.ofFile files here place t
            = (.ok s, [.loading path, .loaded found.size path] ++ more) ∧
          s.toList = found.toList.map Store.ofTextPair := by
  have hstatements : (parse (fileText ls)).map Prod.snd = ls.filterMap Line.statement? := by
    rw [parse, normaliseLines_eq_self (no_return_fileText ls), dropMark_eq_self hmark,
      statements_fileText]
  have hgood : ∀ st ∈ (parse (fileText ls)).map Prod.snd, st ≠ .bad := by
    intro st hst
    rw [hstatements, List.mem_filterMap] at hst
    obtain ⟨l, -, hl⟩ := hst
    rintro rfl
    exact l.statement?_ne_bad hl
  have hpairs : (ls.filterMap Line.statement?).filterMap Statement.pair? = bindings ls := by
    rw [List.filterMap_filterMap, bindings]
    exact List.filterMap_congr fun l _ => l.pair?_statement?
  rw [← Utf8.encode_toList, String.toList_ofList] at hfile
  have hload := load_of_text hfile hgood
  refine ⟨_, ?_, hload, ?_⟩
  · rw [toList_properties, hstatements, hpairs]
    rfl
  · intro here place t hplace
    rw [Store.ofFile, hplace]
    dsimp only
    rw [hload]
    exact ⟨_, _, rfl, Store.toList_create t _⟩

/-- A key that is named last without a value is not among the properties. -/
theorem load_of_cancelled_key : ∃ found s more,
    load (fun _ => some "old=1\nkey='it\\'s'\nold\n".toUTF8.data.toList) ⟨.root, ["settings"]⟩
        = (.ok found, [.loading ⟨.root, ["settings"]⟩, .loaded found.size ⟨.root, ["settings"]⟩]) ∧
      found.toList = [("key", "it's")] ∧
      Store.ofFile (fun _ => some "old=1\nkey='it\\'s'\nold\n".toUTF8.data.toList) ⟨.root, []⟩
          ⟨.root, ["settings"]⟩ default
        = (.ok s, [.loading ⟨.root, ["settings"]⟩, .loaded found.size ⟨.root, ["settings"]⟩]
            ++ more) ∧
      s.toList = [(.text "key", "it's")] := by
  let old : Key := ⟨"old", by decide, by simp; decide, by decide⟩
  let key : Key := ⟨"key", by decide, by simp; decide, by decide⟩
  let one : PlainValue := ⟨"1", by simp, by rintro c ⟨⟩; decide, by rintro c ⟨⟩; decide,
    fun c h => absurd h.length_le (by simp)⟩
  let its : QuotedValue := ⟨"it's", by decide⟩
  obtain ⟨found, hfound, hload, hstore⟩ :=
    load_fileText [.plain old one, .quoted key its, .bare old]
      (fun _ => some "old=1\nkey='it\\'s'\nold\n".toUTF8.data.toList) ⟨.root, ["settings"]⟩
      (by decide) (by decide)
  have hpairs : found.toList = [("key", "it's")] := hfound.trans (by decide)
  obtain ⟨s, more, hfile, hs⟩ := hstore ⟨.root, []⟩ ⟨.root, ["settings"]⟩ default
    (locate_of_isAbsolute rfl)
  exact ⟨found, s, more, hload, hpairs, hfile, by rw [hs, hpairs]; rfl⟩

end Properties

end Settings
