import Settings.Path
import Settings.Proofs.Text.Span
import Settings.Proofs.Text.Split

/-!
# Paths and the places they name

A path is written as some slashes and then parts with a slash between them; what it names are
the parts that are neither empty nor `.`.  Seen from a directory it names a place below the
root, found by a machine with a stack: a name is put on the stack, and `..` takes one off, or
none if the stack is empty.

The machine keeps a stack of names without `..`, and on such a stack it is at rest: running
through the stack's own names builds the stack again.  So it does not matter whether a path is
run through in one go or in two stages, where the second one starts from the place that the
first one found.

## Main definitions

* `IsName`, `Path.Proper` — components as every text of a path has them.
* `Path.written` — a text with some slashes at its start and parts after them.
* `Path.Settled` — the path of a place below the root.

## Main results

* `Path.ofString_written` — **the path that a text names**, from the text's parts.
* `Path.ofString_text` — the text of a path names the path again.
* `Path.settled_resolve` — every path names a place below the root.
* `Path.resolve_resolve_join` — **two stages find the same place as one.**
-/

namespace Settings

/-- A component that names something: it is not empty, not `.` and has no slash. -/
structure IsName (name : String) : Prop where
  ne_empty : name ≠ ""
  ne_dot : name ≠ "."
  no_slash : '/' ∉ name.toList

namespace Path

/-- All components are names. -/
def Proper (p : Path) : Prop := ∀ name ∈ p.components, IsName name

/-- The text of `k` slashes and of parts with a slash between them. -/
def written (k : Nat) (parts : List String) : String :=
  String.ofList (List.replicate k '/') ++ "/".intercalate parts

/-- The parts that name something. -/
def names (parts : List String) : List String :=
  parts.filter fun part => part != "" && part != "."

theorem mem_names {parts : List String} {name : String} :
    name ∈ names parts ↔ name ∈ parts ∧ name ≠ "" ∧ name ≠ "." := by
  simp only [names, List.mem_filter, Bool.and_eq_true, bne_iff_ne]

theorem names_eq_filter (parts : List String) :
    names parts = parts.filter fun part => part ≠ "" ∧ part ≠ "." := by
  refine List.filter_congr fun part _ => ?_
  rw [Bool.eq_iff_iff]
  simp

theorem names_append (parts parts' : List String) :
    names (parts ++ parts') = names parts ++ names parts' :=
  List.filter_append parts parts'

theorem names_cons_empty (parts : List String) : names ("" :: parts) = names parts := rfl

theorem names_eq_self {parts : List String} (h : ∀ part ∈ parts, IsName part) :
    names parts = parts := by
  refine List.filter_eq_self.2 fun part hpart => ?_
  simp only [Bool.and_eq_true, bne_iff_ne]
  exact ⟨(h part hpart).ne_empty, (h part hpart).ne_dot⟩

/-! ### Texts -/

/-- The parts of a text between slashes. -/
def parts (s : String) : List String := (Text.splitOn '/' s.toList).map String.ofList

theorem components_ofString (s : String) : (ofString s).components = names (parts s) := rfl

theorem parts_slash_append (s : String) : parts ("/" ++ s) = "" :: parts s := by
  rw [parts, String.toList_append]
  exact congrArg (List.map String.ofList) (Text.splitOn_cons_self '/' s.toList)

theorem no_slash_of_mem_parts {s part : String} (h : part ∈ parts s) : '/' ∉ part.toList := by
  obtain ⟨cs, hcs, rfl⟩ := List.mem_map.1 h
  rw [String.toList_ofList]
  exact Text.not_mem_of_mem_splitOn hcs

theorem proper_ofString (s : String) : (ofString s).Proper := by
  intro name hname
  rw [components_ofString, mem_names] at hname
  exact ⟨hname.2.1, hname.2.2, no_slash_of_mem_parts hname.1⟩

/-- The parts of two texts with a slash between them. -/
theorem parts_append_slash (s t : String) : parts (s ++ "/" ++ t) = parts s ++ parts t := by
  have htext : (s ++ "/" ++ t).toList = s.toList ++ '/' :: t.toList := by
    simp only [String.toList_append, List.append_assoc]
    rfl
  rw [parts, htext, Text.splitOn_append_cons, List.map_append]
  rfl

theorem components_append_slash (s t : String) :
    (ofString (s ++ "/" ++ t)).components =
      (ofString s).components ++ (ofString t).components := by
  simp only [components_ofString, parts_append_slash, names_append]

theorem intercalate_toList (parts : List String) :
    ("/".intercalate parts).toList = Text.joinWith '/' (parts.map String.toList) := by
  rw [String.toList_intercalate]
  induction parts with
  | nil => rfl
  | cons part parts ih =>
    cases parts with
    | nil => simp [Text.joinWith]
    | cons part' parts =>
      simp only [List.map_cons] at ih ⊢
      rw [List.intercalate_cons_cons, ih, Text.joinWith_cons _ _ (List.cons_ne_nil _ _)]
      simp

/-- Parts without a slash are the parts of the text that has them. -/
theorem parts_intercalate {ps : List String} (hne : ps ≠ [])
    (h : ∀ part ∈ ps, '/' ∉ part.toList) : parts ("/".intercalate ps) = ps := by
  have hslash : ∀ cs ∈ ps.map String.toList, '/' ∉ cs := by
    intro cs hcs
    obtain ⟨part, hpart, rfl⟩ := List.mem_map.1 hcs
    exact h part hpart
  rw [parts, intercalate_toList, Text.splitOn_joinWith (mt List.map_eq_nil_iff.1 hne) hslash,
    List.map_map]
  exact List.map_id'' (fun part => String.ofList_toList) ps

/-! ### Slashes at the start -/

/-- A part without a slash, unless it is empty, does not begin with one; nor does any text of
such parts. -/
theorem head?_intercalate_ne {ps : List String} (h : ∀ part ∈ ps, '/' ∉ part.toList)
    (hhead : ps.head? ≠ some "") : ("/".intercalate ps).toList.head? ≠ some '/' := by
  cases ps with
  | nil => exact nofun
  | cons part ps =>
    have hpart : part.toList ≠ [] := fun hnil => by
      rw [String.toList_eq_nil_iff] at hnil
      exact hhead (congrArg some hnil)
    obtain ⟨c, cs, hcs⟩ := List.exists_cons_of_ne_nil hpart
    have hc : c ≠ '/' := fun hc => h part List.mem_cons_self (by simp [hcs, hc])
    have hfirst : ("/".intercalate (part :: ps)).toList.head? = some c := by
      rw [intercalate_toList, List.map_cons, hcs]
      cases ps <;> rfl
    rw [hfirst]
    exact fun hslash => hc (Option.some.inj hslash)

theorem anchorOf_replicate_append (k : Nat) {cs : List Char} (h : cs.head? ≠ some '/') :
    anchorOf (List.replicate k '/' ++ cs) = anchorOf (List.replicate k '/') := by
  have hrun : ∀ c ∈ List.replicate k '/', (c == '/') = true := fun c hc => by
    rw [List.eq_of_mem_replicate hc]
    rfl
  have htake : (List.replicate k '/' ++ cs).takeWhile (· == '/') = List.replicate k '/' := by
    refine Text.takeWhile_append_of_stop hrun fun c hc => ?_
    exact beq_false_of_ne fun hslash => h (hslash ▸ hc)
  have hself : (List.replicate k '/').takeWhile (· == '/') = List.replicate k '/' := by simp
  simp only [anchorOf, htake, hself]

theorem written_zero (ps : List String) : written 0 ps = "/".intercalate ps :=
  String.empty_append

theorem written_succ (k : Nat) (ps : List String) : written (k + 1) ps = "/" ++ written k ps := by
  rw [← String.toList_inj]
  simp [written, List.replicate_succ]

/-- The slashes at the start begin no part that names something. -/
theorem names_parts_written (k : Nat) {ps : List String} (h : ∀ part ∈ ps, '/' ∉ part.toList) :
    names (parts (written k ps)) = names ps := by
  induction k with
  | zero =>
    rw [written_zero]
    -- no parts at all are written as one empty part
    by_cases hne : ps = []
    · rw [hne]
      rfl
    · rw [parts_intercalate hne h]
  | succ k ih => rw [written_succ, parts_slash_append, names_cons_empty, ih]

/-- **The path that a text names**: the slashes at its start say where it begins, and the
components are the parts that name something. -/
theorem ofString_written (k : Nat) {ps : List String} (h : ∀ part ∈ ps, '/' ∉ part.toList)
    (hhead : ps.head? ≠ some "") :
    ofString (written k ps) = ⟨anchorOf (List.replicate k '/'), names ps⟩ := by
  have hanchor : anchorOf (written k ps).toList = anchorOf (List.replicate k '/') := by
    rw [written, String.toList_append, String.toList_ofList,
      anchorOf_replicate_append k (head?_intercalate_ne h hhead)]
  rw [← hanchor, ← names_parts_written k h]
  rfl

/-- A name is a path of its own. -/
theorem ofString_name {name : String} (h : IsName name) : ofString name = ⟨.relative, [name]⟩ := by
  have hslash : ∀ part ∈ [name], IsName part := fun part hpart =>
    List.mem_singleton.1 hpart ▸ h
  have hwritten : written 0 [name] = name := by
    rw [written_zero]
    rfl
  have hpath := ofString_written 0 (fun part hpart => (hslash part hpart).no_slash)
    (fun hhead => h.ne_empty (Option.some.inj hhead))
  rw [hwritten, names_eq_self hslash] at hpath
  exact hpath

/-- Two slashes at the start are kept, and any other number of them is one. -/
theorem text_written {k : Nat} (hk : 0 < k) {ps : List String}
    (h : ∀ part ∈ ps, '/' ∉ part.toList) (hhead : ps.head? ≠ some "") :
    (ofString (written k ps)).text
      = (if k = 2 then "//" else "/") ++ "/".intercalate (names ps) := by
  rw [ofString_written k h hhead]
  by_cases htwo : k = 2
  · rw [htwo]
    rfl
  · have hroot : anchorOf (List.replicate k '/') = .root := by
      have hrun : (List.replicate k '/').takeWhile (· == '/') = List.replicate k '/' := by simp
      rw [anchorOf, hrun, List.length_replicate]
      split
      · next => omega
      · next => omega
      · rfl
    rw [hroot, if_neg htwo]
    rfl

/-- Every text is some slashes and then parts, where the slashes are all that stand at its
start. -/
theorem exists_written (s : String) : ∃ k ps, s = written k ps ∧
    (∀ part ∈ ps, '/' ∉ part.toList) ∧ ps.head? ≠ some "" := by
  have hslashes : s.toList.takeWhile (· == '/')
      = List.replicate (s.toList.takeWhile (· == '/')).length '/' := by
    refine List.eq_replicate_iff.2 ⟨rfl, fun c hc => ?_⟩
    simpa using List.mem_takeWhile_imp hc
  have hhead : (s.toList.dropWhile (· == '/')).head? ≠ some '/' := fun hhead => by
    simpa [hhead] using List.head?_dropWhile_not (· == '/') s.toList
  -- what is left after the slashes begins with another character, so its first part is not empty
  generalize hk : (s.toList.takeWhile (· == '/')).length = k at hslashes
  generalize hrest : s.toList.dropWhile (· == '/') = rest at hhead
  have hs : s.toList = List.replicate k '/' ++ rest := by
    rw [← hslashes, ← hrest, List.takeWhile_append_dropWhile]
  cases rest with
  | nil =>
    refine ⟨k, [], ?_, nofun, nofun⟩
    rw [← String.toList_inj, hs]
    simp [written]
  | cons c cs =>
    have hc : c ≠ '/' := fun hc => hhead (congrArg some hc)
    obtain ⟨part, rest, -, hparts⟩ := Text.splitOn_cons_of_ne hc cs
    refine ⟨k, parts (String.ofList (c :: cs)), ?_, fun _ => no_slash_of_mem_parts, ?_⟩
    · rw [← String.toList_inj, hs, written, String.toList_append, intercalate_toList, parts,
        List.map_map]
      simp [Function.comp_def, Text.joinWith_splitOn]
    · rw [parts, String.toList_ofList, hparts]
      simp

/-! ### Texts of paths -/

theorem Proper.head?_ne {p : Path} (h : p.Proper) : p.components.head? ≠ some "" := fun hhead =>
  (h "" (List.mem_of_mem_head? hhead)).ne_empty rfl

/-- The text of a path, less the name `.` of the directory it is seen from. -/
theorem text_eq_written {p : Path} (h : p.anchor ≠ .relative ∨ p.components ≠ []) :
    ∃ k, p.text = written k p.components ∧ anchorOf (List.replicate k '/') = p.anchor := by
  obtain ⟨anchor, components⟩ := p
  cases anchor with
  | relative =>
    cases components with
    | nil => exact absurd rfl (h.resolve_left fun hne => hne rfl)
    | cons name components => exact ⟨0, rfl, rfl⟩
  | root => exact ⟨1, rfl, rfl⟩
  | doubleRoot => exact ⟨2, rfl, rfl⟩

/-- The text of a path names the path again. -/
theorem ofString_text {p : Path} (h : p.Proper) : ofString p.text = p := by
  by_cases hhere : p.anchor = .relative ∧ p.components = []
  · obtain ⟨anchor, components⟩ := p
    obtain ⟨rfl, rfl⟩ := hhere
    decide
  · obtain ⟨k, htext, hanchor⟩ := text_eq_written (not_and_or.1 hhere)
    have hslash : ∀ part ∈ p.components, '/' ∉ part.toList := fun part hpart =>
      (h part hpart).no_slash
    rw [htext, ofString_written k hslash h.head?_ne, hanchor, names_eq_self h]

/-! ### The machine -/

theorem mem_step {stack : List String} {name name' : String} (h : name' ∈ step stack name) :
    name' ∈ stack ∨ (name' = name ∧ name ≠ "..") := by
  by_cases hname : name = ".."
  · rw [step, if_pos hname] at h
    exact .inl (List.dropLast_subset stack h)
  · rw [step, if_neg hname, List.mem_append, List.mem_singleton] at h
    exact h.imp_right fun heq => ⟨heq, hname⟩

/-- What is on the stack at the end was there before, or is a name that was put there. -/
theorem mem_foldl_step {names stack : List String} {name : String}
    (h : name ∈ names.foldl step stack) : name ∈ stack ∨ (name ∈ names ∧ name ≠ "..") := by
  -- the first name changes the stack, so the stack is general
  induction names generalizing stack with
  | nil => exact .inl h
  | cons first names ih =>
    rcases ih h with hstack | ⟨hmem, hne⟩
    · rcases mem_step hstack with hold | ⟨rfl, hne⟩
      · exact .inl hold
      · exact .inr ⟨List.mem_cons_self, hne⟩
    · exact .inr ⟨List.mem_cons_of_mem first hmem, hne⟩

/-- Without `..` the names are put on the stack one after the other. -/
theorem foldl_step_of_not_mem {names stack : List String} (h : ".." ∉ names) :
    names.foldl step stack = stack ++ names := by
  induction names generalizing stack with
  | nil => exact (List.append_nil stack).symm
  | cons name names ih =>
    rw [List.mem_cons, not_or] at h
    rw [List.foldl_cons, ih h.2, step, if_neg (Ne.symm h.1), List.append_assoc]
    rfl

/-- The stack that a machine leaves which began without one. -/
theorem mem_foldl_step_nil {names : List String} {name : String}
    (h : name ∈ names.foldl step []) : name ∈ names ∧ name ≠ ".." :=
  (mem_foldl_step h).resolve_left List.not_mem_nil

/-- The machine is at rest on the stack that it leaves. -/
theorem foldl_step_foldl_step (names : List String) :
    (names.foldl step []).foldl step [] = names.foldl step [] :=
  foldl_step_of_not_mem fun hmem => (mem_foldl_step_nil hmem).2 rfl

/-! ### Places -/

/-- The path of a place below the root: nothing is left in it that could be taken back. -/
structure Settled (p : Path) : Prop where
  anchor_eq : p.anchor = .root
  proper : p.Proper
  no_parent : ".." ∉ p.components

theorem Settled.isAbsolute {p : Path} (h : p.Settled) : p.isAbsolute = true := by
  rw [Path.isAbsolute, h.anchor_eq]
  rfl

theorem Settled.text_eq {p : Path} (h : p.Settled) :
    p.text = "/" ++ "/".intercalate p.components := by
  obtain ⟨anchor, components⟩ := p
  obtain rfl : anchor = .root := h.anchor_eq
  rfl

theorem Proper.join {base p : Path} (hbase : base.Proper) (hp : p.Proper) :
    (base.join p).Proper := by
  intro name hname
  rw [Path.join] at hname
  split at hname
  · exact hp name hname
  · rcases List.mem_append.1 hname with hmem | hmem
    · exact hbase name hmem
    · exact hp name hmem

/-- Every path names a place below the root. -/
theorem settled_resolve {base p : Path} (hbase : base.Proper) (hp : p.Proper) :
    (base.resolve p).Settled where
  anchor_eq := rfl
  proper := fun name hname => hbase.join hp name (mem_foldl_step_nil hname).1
  no_parent := fun hmem => (mem_foldl_step_nil hmem).2 rfl

theorem join_of_relative {base p : Path} (h : p.isAbsolute = false) :
    base.join p = ⟨base.anchor, base.components ++ p.components⟩ := by
  rw [Path.join, h]
  rfl

/-- An absolute path is one whose text begins with a slash. -/
theorem isAbsolute_ofString (s : String) :
    (ofString s).isAbsolute = true ↔ s.toList.head? = some '/' := by
  have hanchor : (ofString s).anchor = anchorOf s.toList := rfl
  rw [Path.isAbsolute, bne_iff_ne, hanchor]
  cases hs : s.toList with
  | nil => decide
  | cons c cs =>
    rw [List.head?_cons, Option.some.injEq]
    by_cases hc : c = '/'
    · subst hc
      have hrun : (('/' :: cs).takeWhile (· == '/')).length ≠ 0 := by simp
      refine ⟨fun _ => rfl, fun _ => ?_⟩
      rw [anchorOf]
      split
      · next h => exact absurd h hrun
      · exact nofun
      · exact nofun
    · have hrun : (c :: cs).takeWhile (· == '/') = [] := by simp [hc]
      simp [anchorOf, hrun, hc]

theorem isAbsolute_ofString_eq_false {s : String} (h : s.toList.head? ≠ some '/') :
    (ofString s).isAbsolute = false :=
  eq_false_of_ne_true (mt (isAbsolute_ofString s).1 h)

/-- One relative path after another one, as texts and as paths. -/
theorem ofString_append_slash {s t : String} (hs : s ≠ "") (hhead : s.toList.head? ≠ some '/')
    (ht : t.toList.head? ≠ some '/') :
    ofString (s ++ "/" ++ t) = (ofString s).join (ofString t) := by
  have hwhole : (s ++ "/" ++ t).toList.head? ≠ some '/' := by
    obtain ⟨c, cs, hcs⟩ := List.exists_cons_of_ne_nil (mt String.toList_eq_nil_iff.1 hs)
    rw [hcs, List.head?_cons] at hhead
    simpa [String.toList_append, hcs] using hhead
  have hanchor {u : String} (hu : u.toList.head? ≠ some '/') : (ofString u).anchor = .relative := by
    simpa [Path.isAbsolute] using isAbsolute_ofString_eq_false hu
  rw [join_of_relative (isAbsolute_ofString_eq_false ht), hanchor hhead,
    ← components_append_slash, ← hanchor hwhole]

theorem isAbsolute_join_of_isAbsolute {base : Path} (h : base.isAbsolute = true) (p : Path) :
    (base.join p).isAbsolute = true := by
  cases hp : p.isAbsolute with
  | true => rw [join_of_isAbsolute hp, hp]
  | false =>
    rw [join_of_relative hp]
    exact h

theorem join_assoc (p q r : Path) : p.join (q.join r) = (p.join q).join r := by
  cases hr : r.isAbsolute with
  | true => rw [join_of_isAbsolute hr, join_of_isAbsolute hr, join_of_isAbsolute hr]
  | false =>
    cases hq : q.isAbsolute with
    | true =>
      rw [join_of_isAbsolute (isAbsolute_join_of_isAbsolute hq r), join_of_isAbsolute hq]
    | false =>
      have hjoin : (q.join r).isAbsolute = false := by
        rw [join_of_relative hr]
        exact hq
      rw [join_of_relative hjoin, join_of_relative hr, join_of_relative hr, join_of_relative hq,
        List.append_assoc]

/-- **Two stages find the same place as one**: a relative path seen from the place that `base`
names, and the path `base` with the relative one after it. -/
theorem resolve_resolve_join (here base : Path) {q : Path} (hq : q.isAbsolute = false) :
    here.resolve ((here.resolve base).join q) = here.resolve (base.join q) := by
  have hplace : here.join ((here.resolve base).join q)
      = ⟨.root, (here.join base).components.foldl step [] ++ q.components⟩ := by
    rw [join_of_isAbsolute (isAbsolute_join_of_isAbsolute rfl q), join_of_relative hq]
    rfl
  have hwhole : (here.join (base.join q)).components
      = (here.join base).components ++ q.components := by
    rw [join_assoc, join_of_relative hq]
  -- the first stage leaves a stack on which the second one is at rest
  show (⟨.root, (here.join ((here.resolve base).join q)).components.foldl step []⟩ : Path)
    = ⟨.root, (here.join (base.join q)).components.foldl step []⟩
  rw [hplace, hwhole, List.foldl_append, List.foldl_append, foldl_step_foldl_step]

/-- A place and one more name: the name is put at the end, and `..` takes the last one back. -/
theorem Settled.resolve_join_name {p : Path} (h : p.Settled) (here : Path) (name : String) :
    here.resolve (p.join ⟨.relative, [name]⟩) = ⟨.root, step p.components name⟩ := by
  have hplace : here.join (p.join ⟨.relative, [name]⟩) = ⟨p.anchor, p.components ++ [name]⟩ :=
    join_of_isAbsolute (isAbsolute_join_of_isAbsolute h.isAbsolute _)
  show (⟨.root, (here.join (p.join ⟨.relative, [name]⟩)).components.foldl step []⟩ : Path)
    = ⟨.root, step p.components name⟩
  rw [hplace, List.foldl_append, foldl_step_of_not_mem h.no_parent]
  rfl

/-! ### The character U+0000 -/

theorem hasNull_eq_false_iff {p : Path} :
    p.hasNull = false ↔ ∀ name ∈ p.components, '\x00' ∉ name.toList := by
  simp [hasNull]

/-- A text without the character names a path without it. -/
theorem hasNull_ofString {s : String} (h : '\x00' ∉ s.toList) : (ofString s).hasNull = false := by
  refine hasNull_eq_false_iff.2 fun name hname hnull => ?_
  rw [components_ofString, mem_names] at hname
  obtain ⟨cs, hcs, rfl⟩ := List.mem_map.1 hname.1
  rw [String.toList_ofList] at hnull
  exact h (Text.of_mem_splitOn hcs _ hnull).1

theorem hasNull_join_of_relative {base p : Path} (h : p.isAbsolute = false) :
    (base.join p).hasNull = (base.hasNull || p.hasNull) := by
  rw [join_of_relative h]
  exact List.any_append

/-- Where the directory and the path are without the character, so is the place. -/
theorem hasNull_resolve {here p : Path} (hhere : here.hasNull = false) (hp : p.hasNull = false) :
    (here.resolve p).hasNull = false := by
  have hjoin : (here.join p).hasNull = false := by
    cases habs : p.isAbsolute with
    | true => rw [join_of_isAbsolute habs, hp]
    | false => rw [hasNull_join_of_relative habs, hhere, hp]; rfl
  refine hasNull_eq_false_iff.2 fun name hname => ?_
  exact hasNull_eq_false_iff.1 hjoin name (mem_foldl_step_nil hname).1

/-! ### Classes of characters -/

/-- All characters of the components are in a class. -/
def Within (P : Char → Prop) (p : Path) : Prop := ∀ name ∈ p.components, ∀ c ∈ name.toList, P c

section Within

variable {P : Char → Prop}

theorem within_ofString {s : String} (h : ∀ c ∈ s.toList, P c) : (ofString s).Within P := by
  intro name hname c hc
  rw [components_ofString, mem_names] at hname
  obtain ⟨cs, hcs, rfl⟩ := List.mem_map.1 hname.1
  rw [String.toList_ofList] at hc
  exact h c (Text.of_mem_splitOn hcs c hc).1

theorem Within.join {base p : Path} (hbase : base.Within P) (hp : p.Within P) :
    (base.join p).Within P := by
  intro name hname
  rw [Path.join] at hname
  split at hname
  · exact hp name hname
  · rcases List.mem_append.1 hname with hmem | hmem
    · exact hbase name hmem
    · exact hp name hmem

theorem Within.resolve {base p : Path} (hbase : base.Within P) (hp : p.Within P) :
    (base.resolve p).Within P := fun name hname =>
  hbase.join hp name (mem_foldl_step_nil hname).1

/-- The text of an absolute path has no more characters than its components, but for slashes. -/
theorem Within.forall_mem_text {p : Path} (h : p.Within P) (habs : p.isAbsolute = true)
    (hslash : P '/') : ∀ c ∈ p.text.toList, P c := by
  have hanchor : ∀ c ∈ p.anchor.text.toList, P c := by
    have key : ∀ anchor : Anchor, ∀ c ∈ anchor.text.toList, c = '/' := by
      intro anchor
      cases anchor <;> simp [Anchor.text]
    intro c hc
    rw [key p.anchor c hc]
    exact hslash
  have htext : p.text = p.anchor.text ++ "/".intercalate p.components := by
    obtain ⟨anchor, components⟩ := p
    cases anchor with
    | relative => cases habs
    | root => rfl
    | doubleRoot => rfl
  intro c hc
  rw [htext, String.toList_append, List.mem_append, intercalate_toList] at hc
  rcases hc with hc | hc
  · exact hanchor c hc
  · rcases Text.mem_joinWith hc with rfl | ⟨part, hpart, hc⟩
    · exact hslash
    · obtain ⟨name, hname, rfl⟩ := List.mem_map.1 hpart
      exact h name hname c hc

end Within

end Path

end Settings
