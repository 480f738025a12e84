import Mathlib.Data.List.Basic
import Mathlib.Data.List.TakeWhile
import Settings.Text.Blank

/-!
# Stretches of a text

A text that consists of a stretch of one class of characters and a rest that does not go on
with that class is taken apart by the class again; so is a text between blanks.

## Main results

* `takeWhile_append_of_stop`, `dropWhile_append_of_stop` — the stretch and the rest.
* `trim_append`, `exists_eq_append_trim` — a text is its trimmed form between blanks.
-/

namespace Settings.Text

/-! ### Stretches -/

section Stretches

variable {α : Type} {p : α → Bool} {run rest : List α}

theorem takeWhile_append_of_stop (hrun : ∀ a ∈ run, p a = true)
    (hstop : ∀ a, rest.head? = some a → p a = false) : (run ++ rest).takeWhile p = run := by
  rw [List.takeWhile_append_of_pos hrun]
  cases rest with
  | nil => exact List.append_nil run
  | cons a rest =>
    rw [List.takeWhile_cons, hstop a rfl, if_neg Bool.false_ne_true, List.append_nil]

theorem dropWhile_append_of_stop (hrun : ∀ a ∈ run, p a = true)
    (hstop : ∀ a, rest.head? = some a → p a = false) : (run ++ rest).dropWhile p = rest := by
  rw [List.dropWhile_append_of_pos hrun]
  cases rest with
  | nil => rfl
  | cons a rest => rw [List.dropWhile_cons, hstop a rfl, if_neg Bool.false_ne_true]

end Stretches

/-! ### Trimming -/

/-- No visible character of ASCII is blank. -/
theorem isBlank_eq_false {c : Char} (hlow : 0x21 ≤ c.toNat) (hhigh : c.toNat < 0x80) :
    isBlank c = false := by
  rw [Bool.eq_false_iff, Ne, isBlank, inRanges_iff]
  rintro ⟨r, hr, h⟩
  have key : ∀ r ∈ blankRanges, r.2 < 0x21 ∨ 0x80 ≤ r.1 := by decide
  have := key r hr
  omega

/-- A text that does not begin with a blank has none to lose at its start. -/
theorem trimLeft_eq_self {cs : List Char} (h : ∀ c, cs.head? = some c → isBlank c = false) :
    trimLeft cs = cs := by
  cases cs with
  | nil => rfl
  | cons c cs => rw [trimLeft_cons, h c rfl, if_neg Bool.false_ne_true]

/-- A text that does not end with a blank has none to lose at its end. -/
theorem trimRight_eq_self {cs : List Char} (h : ∀ c, cs.getLast? = some c → isBlank c = false) :
    trimRight cs = cs := by
  have hrev : trimLeft cs.reverse = cs.reverse := by
    refine trimLeft_eq_self fun c hc => h c ?_
    rw [← hc, List.head?_reverse]
  rw [trimRight, ← trimLeft, hrev, List.reverse_reverse]

/-- The blanks around a text without blanks at its ends are what trimming takes away. -/
theorem trim_append {before cs after : List Char} (hbefore : ∀ c ∈ before, isBlank c = true)
    (hafter : ∀ c ∈ after, isBlank c = true)
    (hfirst : ∀ c, cs.head? = some c → isBlank c = false)
    (hlast : ∀ c, cs.getLast? = some c → isBlank c = false) :
    trim (before ++ cs ++ after) = cs := by
  have hright : trimRight (cs ++ after) = cs := by
    have hrev : ∀ c ∈ after.reverse, isBlank c = true := fun c hc =>
      hafter c (List.mem_reverse.1 hc)
    rw [trimRight, List.reverse_append, List.dropWhile_append_of_pos hrev]
    exact trimRight_eq_self hlast
  rw [trim, trimLeft, List.append_assoc, List.dropWhile_append_of_pos hbefore]
  cases cs with
  | nil =>
    -- nothing but blanks is left
    rw [List.nil_append] at hright ⊢
    rw [List.dropWhile_eq_nil_iff.2 hafter, trimRight_nil]
  | cons c cs =>
    rw [List.cons_append, ← trimLeft, trimLeft_cons, hfirst c rfl, if_neg Bool.false_ne_true]
    exact hright

/-- A text is its trimmed form between blanks. -/
theorem exists_eq_append_trim (cs : List Char) :
    ∃ before after, (∀ c ∈ before, isBlank c = true) ∧ (∀ c ∈ after, isBlank c = true) ∧
      cs = before ++ trim cs ++ after := by
  refine ⟨cs.takeWhile isBlank, ((trimLeft cs).reverse.takeWhile isBlank).reverse, ?_, ?_, ?_⟩
  · exact fun c hc => List.mem_takeWhile_imp hc
  · exact fun c hc => List.mem_takeWhile_imp (List.mem_reverse.1 hc)
  · have hright : trim cs ++ ((trimLeft cs).reverse.takeWhile isBlank).reverse = trimLeft cs := by
      rw [trim, trimRight, ← List.reverse_append, List.takeWhile_append_dropWhile,
        List.reverse_reverse]
    rw [List.append_assoc, hright, trimLeft, List.takeWhile_append_dropWhile]

end Settings.Text
