import Settings.Proofs.Path
import Settings.Properties.Reader

/-!
# Where a properties file is

A relative path is seen from a directory and names a place below the root, written without
anything that could be left out; an absolute path is taken as it is, `..` and all, less the
components that do not matter.  Either way the path that is found is found again, whatever
directory it is seen from, and a file that is looked for in two stages is the one that is
looked for in one.

## Main results

* `locate_of_relative`, `locate_of_null` — what a relative path is taken for.
* `locate_locate` — two stages and one, also where the path cannot be followed.
* `locate_normalises` — **locating a file normalises its path.**
-/

namespace Settings.Properties

open Settings.Path

variable {here root path : Path}

/-! ### One path -/

theorem locate_of_relative (h : path.isAbsolute = false)
    (hnull : (root.join path).hasNull = false) :
    locate here root path = .ok (here.resolve (root.join path)) := by
  simp [locate, resolvePath, h, hnull]

theorem locate_of_null (h : path.isAbsolute = false) (hnull : (root.join path).hasNull = true) :
    locate here root path = .error .nullInPath := by
  simp [locate, h, hnull]

/-- What a relative path can be taken for only if it can be followed. -/
theorem eq_of_locate {p : Path} (h : path.isAbsolute = false)
    (hp : locate here root path = .ok p) :
    p = here.resolve (root.join path) ∧ (root.join path).hasNull = false := by
  cases hnull : (root.join path).hasNull with
  | true =>
    rw [locate_of_null h hnull] at hp
    cases hp
  | false =>
    rw [locate_of_relative h hnull] at hp
    exact ⟨(Except.ok.inj hp).symm, rfl⟩

/-- What is found is absolute and names itself. -/
theorem proper_of_locate {p : Path} (hhere : here.Proper) (hroot : root.Proper)
    (hpath : path.Proper) (hp : locate here root path = .ok p) :
    p.Proper ∧ p.isAbsolute = true := by
  cases habs : path.isAbsolute with
  | true =>
    rw [locate_of_isAbsolute habs] at hp
    obtain rfl := Except.ok.inj hp
    exact ⟨hpath, habs⟩
  | false =>
    obtain ⟨rfl, -⟩ := eq_of_locate habs hp
    have hsettled : (here.resolve (root.join path)).Settled :=
      settled_resolve hhere (hroot.join hpath)
    exact ⟨hsettled.proper, hsettled.isAbsolute⟩

theorem isAbsolute_of_locate {p : Path} (hp : locate here root path = .ok p) :
    p.isAbsolute = true := by
  cases habs : path.isAbsolute with
  | true =>
    rw [locate_of_isAbsolute habs] at hp
    exact Except.ok.inj hp ▸ habs
  | false =>
    rw [(eq_of_locate habs hp).1]
    rfl

/-- What is found has only characters of a class if the path has, and the directories that it is
seen from if it is relative. -/
theorem within_of_locate {P : Char → Prop} {p : Path} (hpath : path.Within P)
    (hfrom : path.isAbsolute = false → here.Within P ∧ root.Within P)
    (hp : locate here root path = .ok p) : p.Within P := by
  cases habs : path.isAbsolute with
  | true =>
    rw [locate_of_isAbsolute habs] at hp
    exact Except.ok.inj hp ▸ hpath
  | false =>
    rw [(eq_of_locate habs hp).1]
    exact (hfrom habs).1.resolve ((hfrom habs).2.join hpath)

/-! ### Two paths -/

/-- A file that is looked for in two stages: the second path is seen from the place that the
first one names.  Where either has the character U+0000, neither way finds anything. -/
theorem locate_locate (hhere : here.hasNull = false) {a b : Path} (ha : a.isAbsolute = false)
    (hb : b.isAbsolute = false) :
    (locate here root a).bind (fun p => locate here p b) = locate here root (a.join b) := by
  have hab : (a.join b).isAbsolute = false := by
    rw [join_of_relative hb]
    exact ha
  have hwhole : (root.join (a.join b)).hasNull = ((root.join a).hasNull || b.hasNull) := by
    rw [join_assoc, hasNull_join_of_relative hb]
  -- the place has no U+0000 once the first path can be followed
  cases hnull : (root.join a).hasNull with
  | true =>
    rw [locate_of_null ha hnull, locate_of_null hab (by rw [hwhole, hnull]; rfl)]
    rfl
  | false =>
    have hplace : (here.resolve (root.join a)).hasNull = false := hasNull_resolve hhere hnull
    have hstage : ((here.resolve (root.join a)).join b).hasNull = b.hasNull := by
      rw [hasNull_join_of_relative hb, hplace, Bool.false_or]
    rw [hnull, Bool.false_or] at hwhole
    rw [locate_of_relative ha hnull]
    show locate here (here.resolve (root.join a)) b = locate here root (a.join b)
    cases hbnull : b.hasNull with
    | true =>
      rw [locate_of_null hb (hstage.trans hbnull), locate_of_null hab (hwhole.trans hbnull)]
    | false =>
      rw [locate_of_relative hb (hstage.trans hbnull),
        locate_of_relative hab (hwhole.trans hbnull), resolve_resolve_join here _ hb, join_assoc]

/-- One more name after a relative path is put at the end of the place, and `..` takes the last
name of the place back. -/
theorem locate_name (hhere : here.Proper) (hroot : root.Proper) {a p : Path} (ha : a.Proper)
    (hrel : a.isAbsolute = false) (hp : locate here root a = .ok p)
    (hnull : here.hasNull = false) {name : String} (hname : '\x00' ∉ name.toList) :
    locate here root (a.join ⟨.relative, [name]⟩) = .ok ⟨.root, step p.components name⟩ := by
  obtain ⟨rfl, hrootnull⟩ := eq_of_locate hrel hp
  have hsettled : (here.resolve (root.join a)).Settled := settled_resolve hhere (hroot.join ha)
  have hone : (⟨.relative, [name]⟩ : Path).hasNull = false := by
    refine hasNull_eq_false_iff.2 fun part hpart => ?_
    rw [List.mem_singleton.1 hpart]
    exact hname
  have hplace : ((here.resolve (root.join a)).join ⟨.relative, [name]⟩).hasNull = false := by
    rw [hasNull_join_of_relative rfl, hasNull_resolve hnull hrootnull, hone]
    rfl
  rw [← locate_locate hnull hrel rfl, hp, ← hsettled.resolve_join_name here name]
  exact locate_of_relative rfl hplace

/-! ### Texts -/

/-- A relative path is written as one slash and the names that are left. -/
theorem text_of_locate_relative (cwd : String) {r a : String} (hr : '\x00' ∉ r.toList)
    (ha : '\x00' ∉ a.toList) (hrel : a.toList.head? ≠ some '/') :
    ∃ p, locate (.ofString cwd) (.ofString r) (.ofString a) = .ok p ∧
      p.text = "/" ++ "/".intercalate p.components ∧
      ∀ name ∈ p.components, IsName name ∧ name ≠ ".." := by
  have habs : (ofString a).isAbsolute = false := isAbsolute_ofString_eq_false hrel
  have hnull : ((ofString r).join (ofString a)).hasNull = false := by
    rw [hasNull_join_of_relative habs, hasNull_ofString hr, hasNull_ofString ha]
    rfl
  have hsettled : ((ofString cwd).resolve ((ofString r).join (ofString a))).Settled :=
    settled_resolve (proper_ofString cwd) ((proper_ofString r).join (proper_ofString a))
  refine ⟨_, locate_of_relative habs hnull, hsettled.text_eq, fun name hname => ?_⟩
  exact ⟨hsettled.proper name hname, fun hparent => hsettled.no_parent (hparent ▸ hname)⟩

/-- An absolute path is written as it was given, less the parts that name nothing and the
slashes that do not matter. -/
theorem text_of_absolute {s : String} (habs : s.toList.head? = some '/') :
    ∃ k ps, s = written k ps ∧ 0 < k ∧ (∀ part ∈ ps, '/' ∉ part.toList) ∧ ps.head? ≠ some "" ∧
      (ofString s).text = (if k = 2 then "//" else "/") ++
        "/".intercalate (ps.filter fun part => part ≠ "" ∧ part ≠ ".") := by
  obtain ⟨k, ps, rfl, hslash, hhead⟩ := exists_written s
  have hk : 0 < k := by
    rcases Nat.eq_zero_or_pos k with rfl | hk
    · rw [written_zero] at habs
      exact absurd habs (head?_intercalate_ne hslash hhead)
    · exact hk
  refine ⟨k, ps, rfl, hk, hslash, hhead, ?_⟩
  rw [← names_eq_filter]
  exact text_written hk hslash hhead

/-- **Locating a file normalises its path.**  A relative path that can be followed is found as
one slash and names; two stages find what one finds, however far `..` climbs, and a name more is
put at the end; an absolute path loses the parts that name nothing and the slashes that do not
matter, wherever it is seen from; and what is found is found again from everywhere. -/
theorem locate_normalises (cwd : String) (hcwd : '\x00' ∉ cwd.toList) :
    (∀ r a : String, '\x00' ∉ r.toList → '\x00' ∉ a.toList → a.toList.head? ≠ some '/' →
      ∃ p, locate (.ofString cwd) (.ofString r) (.ofString a) = .ok p ∧
        p.text = "/" ++ "/".intercalate p.components ∧
        ∀ name ∈ p.components, name ≠ "" ∧ name ≠ "." ∧ name ≠ ".." ∧ '/' ∉ name.toList) ∧
    (∀ r a b : String, a ≠ "" → a.toList.head? ≠ some '/' → b.toList.head? ≠ some '/' →
      (locate (.ofString cwd) (.ofString r) (.ofString a)).bind
          (fun p => locate (.ofString cwd) p (.ofString b)) =
        locate (.ofString cwd) (.ofString r) (.ofString (a ++ "/" ++ b))) ∧
    (∀ (r a name : String) (p : Path), a ≠ "" → a.toList.head? ≠ some '/' →
      locate (.ofString cwd) (.ofString r) (.ofString a) = .ok p →
      IsName name → '\x00' ∉ name.toList →
      locate (.ofString cwd) (.ofString r) (.ofString (a ++ "/" ++ name)) =
        .ok ⟨.root, if name = ".." then p.components.dropLast else p.components ++ [name]⟩) ∧
    (∀ s : String, s.toList.head? = some '/' →
      ∃ k ps, s = String.ofList (List.replicate k '/') ++ "/".intercalate ps ∧ 0 < k ∧
        (∀ part ∈ ps, '/' ∉ part.toList) ∧ ps.head? ≠ some "" ∧
        ∃ p, p.text = (if k = 2 then "//" else "/") ++
            "/".intercalate (ps.filter fun part => part ≠ "" ∧ part ≠ ".") ∧
          ∀ root, locate (.ofString cwd) root (.ofString s) = .ok p) ∧
    ∀ r q p, locate (.ofString cwd) (.ofString r) (.ofString q) = .ok p →
      Path.ofString p.text = p ∧ ∀ here root, locate here root p = .ok p := by
  have hhere : (ofString cwd).hasNull = false := hasNull_ofString hcwd
  refine ⟨fun r a hr ha hrel => ?_, fun r a b hne ha hb => ?_,
    fun r a name p hne ha hp hname hnull => ?_, fun s hs => ?_, fun r q p hp => ?_⟩
  · obtain ⟨p, hp, htext, hnames⟩ := text_of_locate_relative cwd hr ha hrel
    refine ⟨p, hp, htext, fun name hname => ?_⟩
    obtain ⟨hname, hparent⟩ := hnames name hname
    exact ⟨hname.ne_empty, hname.ne_dot, hparent, hname.no_slash⟩
  · rw [ofString_append_slash hne ha hb]
    exact locate_locate hhere (isAbsolute_ofString_eq_false ha) (isAbsolute_ofString_eq_false hb)
  · have hhead : name.toList.head? ≠ some '/' := fun hslash =>
      hname.no_slash (List.mem_of_mem_head? hslash)
    rw [ofString_append_slash hne ha hhead, ofString_name hname]
    exact locate_name (proper_ofString cwd) (proper_ofString r) (proper_ofString a)
      (isAbsolute_ofString_eq_false ha) hp hhere hnull
  · obtain ⟨k, ps, hwritten, hk, hslash, hhead, htext⟩ := text_of_absolute hs
    refine ⟨k, ps, hwritten, hk, hslash, hhead, .ofString s, htext, fun root => ?_⟩
    exact locate_of_isAbsolute ((isAbsolute_ofString s).2 hs)
  · have hfound := proper_of_locate (proper_ofString cwd) (proper_ofString r) (proper_ofString q) hp
    exact ⟨ofString_text hfound.1, fun here root => locate_of_isAbsolute hfound.2⟩

/-- Paths that climb past the directory and past the root, and one with slashes to lose. -/
theorem locate_normalises_of_climbing :
    (∃ p, locate (.ofString "/work") (.ofString "conf") (.ofString "../../x/./y") = .ok p ∧
      p.text = "/" ++ "/".intercalate p.components ∧
      ∀ name ∈ p.components, name ≠ "" ∧ name ≠ "." ∧ name ≠ ".." ∧ '/' ∉ name.toList) ∧
    (locate (.ofString "/work") (.ofString "conf") (.ofString "../../x/./y")).bind
        (fun p => locate (.ofString "/work") p (.ofString "../../..//z/.")) =
      locate (.ofString "/work") (.ofString "conf")
        (.ofString ("../../x/./y" ++ "/" ++ "../../..//z/.")) ∧
    locate (.ofString "/work") (.ofString "conf") (.ofString ("../../x/./y" ++ "/" ++ "..")) =
      .ok ⟨.root, ["x"]⟩ ∧
    (∃ k ps, "///a//./../b/" = String.ofList (List.replicate k '/') ++ "/".intercalate ps ∧
      0 < k ∧ (∀ part ∈ ps, '/' ∉ part.toList) ∧ ps.head? ≠ some "" ∧
      ∃ p, p.text = (if k = 2 then "//" else "/") ++
          "/".intercalate (ps.filter fun part => part ≠ "" ∧ part ≠ ".") ∧
        ∀ root, locate (.ofString "/work") root (.ofString "///a//./../b/") = .ok p) ∧
    locate (.ofString "/work") (.ofString "conf") (.ofString "../../x/./y") =
      .ok ⟨.root, ["x", "y"]⟩ ∧
    Path.ofString (Path.text ⟨.root, ["x", "y"]⟩) = ⟨.root, ["x", "y"]⟩ ∧
    ∀ here root, locate here root ⟨.root, ["x", "y"]⟩ = .ok ⟨.root, ["x", "y"]⟩ := by
  obtain ⟨hone, htwo, hname, habs, hagain⟩ := locate_normalises "/work" (by decide)
  have hfound : locate (.ofString "/work") (.ofString "conf") (.ofString "../../x/./y") =
      .ok ⟨.root, ["x", "y"]⟩ := rfl
  refine ⟨hone "conf" "../../x/./y" (by decide) (by decide) (by decide),
    htwo "conf" "../../x/./y" "../../..//z/." (by decide) (by decide) (by decide),
    hname "conf" "../../x/./y" ".." _ (by decide) (by decide) hfound
      ⟨by decide, by decide, by decide⟩ (by decide),
    habs "///a//./../b/" (by decide), hfound, hagain "conf" "../../x/./y" _ hfound⟩

end Settings.Properties
