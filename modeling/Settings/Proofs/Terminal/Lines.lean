import Settings.Proofs.Text.Span
import Settings.Proofs.Text.Split
import Settings.Terminal.Wrap

/-!
# Text that a terminal shows as it is

Preparing a text leaves its lines as they are unless there are tabs in them or controls that
are not kept.  A text of simple characters has none of these, and as many cells as characters.

## Main definitions

* `isKept` — a character that text for a terminal keeps.
* `isSimple` — a printable character of ASCII other than the colon.

## Main results

* `tidy_eq_self` — a text of kept characters stays as it is.
* `head?_tidy` — the first character of a text stays, if it is kept.
-/

namespace Settings.Terminal

open Text

/-! ### Classes of characters -/

/-- The character is kept in text for a terminal, other than a tab, which makes way for spaces. -/
def isKept (c : Char) : Bool := c != '\t' && !isDropped c

/-- The character is a printable one of ASCII, but no colon. -/
def isSimple (c : Char) : Bool := decide (0x20 ≤ c.toNat) && decide (c.toNat ≤ 0x7E) && c != ':'

variable {c : Char} {cs : List Char}

theorem isSimple_iff : isSimple c = true ↔ 0x20 ≤ c.toNat ∧ c.toNat ≤ 0x7E ∧ c ≠ ':' := by
  rw [isSimple, Bool.and_eq_true, Bool.and_eq_true, decide_eq_true_eq, decide_eq_true_eq,
    bne_iff_ne, and_assoc]

/-- A character is none of a list of controls if it comes after them. -/
theorem ne_of_toNat_lt {d : Char} (hc : 0x20 ≤ c.toNat) (hd : d.toNat < 0x20) : c ≠ d := by
  rintro rfl
  omega

theorem isKept_of_le (h : 0x20 ≤ c.toNat) : isKept c = true := by
  have hne : ∀ d : Char, d.toNat < 0x20 → (c == d) = false := fun d hd =>
    beq_eq_false_iff_ne.2 (ne_of_toNat_lt h hd)
  rw [isKept, isDropped, bne, hne _ (by decide), hne _ (by decide), hne _ (by decide),
    hne _ (by decide), hne _ (by decide), hne _ (by decide)]
  rfl

theorem isKept_of_isSimple (h : isSimple c = true) : isKept c = true :=
  isKept_of_le (isSimple_iff.1 h).1

/-! ### Preparing text -/

/-- A text without controls to leave out stays as it is. -/
theorem dropControls_eq_self (h : ∀ c ∈ cs, isDropped c = false) : dropControls cs = cs :=
  List.filter_eq_self.2 fun c hc => by rw [h c hc]; rfl

/-- A line without tabs stays as it is. -/
theorem expandTabs_eq_self (h : '\t' ∉ cs) : expandTabs cs = cs := by
  rw [expandTabs, splitOn_of_not_mem h]
  rfl

/-- **A text of kept characters stays as it is.** -/
theorem tidy_eq_self (h : ∀ c ∈ cs, isKept c = true) : tidy cs = cs := by
  have hkept : ∀ c ∈ cs, c ≠ '\t' ∧ isDropped c = false := by
    intro c hc
    have := h c hc
    rwa [isKept, Bool.and_eq_true, bne_iff_ne, Bool.not_eq_true'] at this
  have hlines : (lines cs).map expandTabs = lines cs := by
    refine (List.map_congr_left fun line hline => ?_).trans (List.map_id _)
    exact expandTabs_eq_self fun htab => (hkept _ (of_mem_splitOn hline _ htab).1).1 rfl
  rw [tidy, dropControls_eq_self fun c hc => (hkept c hc).2, hlines, lines, joinWith_splitOn]

/-- A text of kept characters without ends of lines is one line. -/
theorem lines_tidy (h : ∀ c ∈ cs, isKept c = true ∧ c ≠ '\n') : lines (tidy cs) = [cs] := by
  rw [tidy_eq_self fun c hc => (h c hc).1, lines]
  exact splitOn_of_not_mem fun hline => (h _ hline).2 rfl

/-- The first character of a line is not lost to tabs. -/
theorem head?_expandTabs (h : c ≠ '\t') (cs : List Char) :
    (expandTabs (c :: cs)).head? = some c := by
  obtain ⟨part, parts, -, hparts⟩ := splitOn_cons_of_ne h cs
  rw [expandTabs, hparts]
  cases parts <;> rfl

/-- The first character of a text stays, if it is kept. -/
theorem head?_tidy (h : isKept c = true) (hline : c ≠ '\n') (cs : List Char) :
    (tidy (c :: cs)).head? = some c := by
  rw [isKept, Bool.and_eq_true, bne_iff_ne] at h
  obtain ⟨part, parts, -, hparts⟩ := splitOn_cons_of_ne hline (dropControls cs)
  have hfirst := head?_expandTabs h.1 part
  have hdrop : dropControls (c :: cs) = c :: dropControls cs := List.filter_cons_of_pos h.2
  rw [tidy, hdrop, lines, hparts, List.map_cons]
  cases parts with
  | nil => exact hfirst
  | cons p ps =>
    rw [List.map_cons, joinWith_cons _ _ (List.cons_ne_nil _ _), List.head?_append, hfirst]
    rfl

end Settings.Terminal
