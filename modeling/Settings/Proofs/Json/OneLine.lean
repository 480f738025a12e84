import Settings.Proofs.Json.Reading

/-!
# Printed JSON on one line

A compact form has no blanks between its tokens, a string in it has its controls escaped, and
everything else in it is letters, digits and punctuation.  So there is no character below U+0020
in it, and no line end in particular.

## Main definitions

* `Printed` — a text without controls.

## Main results

* `printed_compact` — **a compact form is on one line.**
-/

namespace Settings.Json

open Number Text

/-! ### Texts without controls -/

/-- A text without controls, so that it is all on one line. -/
def Printed (cs : List Char) : Prop := ∀ c ∈ cs, 0x20 ≤ c.toNat

theorem Printed.append {cs ds : List Char} (hcs : Printed cs) (hds : Printed ds) :
    Printed (cs ++ ds) := fun c hc => (List.mem_append.1 hc).elim (hcs c) (hds c)

theorem Printed.cons {c : Char} {cs : List Char} (hc : 0x20 ≤ c.toNat) (hcs : Printed cs) :
    Printed (c :: cs) := List.forall_mem_cons.2 ⟨hc, hcs⟩

theorem printed_singleton {c : Char} (hc : 0x20 ≤ c.toNat) : Printed [c] := .cons hc nofun

theorem printed_hexPadded (width n : Nat) : Printed (hexPadded width n) := by
  have key : ∀ d : Fin 16, 0x20 ≤ (hexChar d).toNat := by decide
  induction width generalizing n with
  | zero => exact nofun
  | succ width ih =>
    exact (ih (n / 16)).append (printed_singleton (key ⟨n % 16, Nat.mod_lt n (by decide)⟩))

theorem printed_escape (c : Char) : Printed (escape c) := by
  rcases escape_cases c with ⟨letter, heq, -, hletter, -⟩ | ⟨heq, -⟩ | ⟨heq, -, -, hc⟩
  · rw [heq]
    exact .cons (by decide) (printed_singleton hletter)
  · rw [heq]
    exact .cons (by decide) (.cons (by decide) (printed_hexPadded 4 c.toNat))
  · rw [heq]
    exact printed_singleton hc

theorem printed_quoted (cs : List Char) : Printed (quoted cs) := by
  refine .append (.cons (by decide) fun d hd => ?_) (printed_singleton (by decide))
  obtain ⟨c, -, hd⟩ := List.mem_flatMap.1 hd
  exact printed_escape c d hd

theorem printed_decimal (n : Nat) : Printed (decimal n) := by
  intro c hc
  have hdigit := isAsciiDigit_of_mem_decimal n c hc
  simp only [isAsciiDigit, Bool.and_eq_true, decide_eq_true_eq] at hdigit
  exact Nat.le_trans (by decide) hdigit.1

theorem printed_decimalInt (n : Int) : Printed (decimalInt n) := by
  cases n with
  | ofNat n => exact printed_decimal n
  | negSucc n => exact .cons (by decide) (printed_decimal (n + 1))

theorem printed_commaSeparated {parts : List (List Char)} (h : ∀ part ∈ parts, Printed part) :
    Printed (commaSeparated parts) := by
  induction parts with
  | nil => exact nofun
  | cons part parts ih =>
    have hpart := h part List.mem_cons_self
    by_cases hparts : parts = []
    · rw [hparts]
      exact hpart
    · rw [commaSeparated_cons part hparts]
      exact hpart.append (.cons (by decide) (ih fun p hp => h p (List.mem_cons_of_mem part hp)))

/-- Parts that are each made of an item are printed if the parts of all items are. -/
theorem printed_parts {α : Type} {R : α → List Char → Prop} {items : List α}
    {parts : List (List Char)} (hparts : List.Forall₂ R items parts)
    (h : ∀ item ∈ items, ∀ part, R item part → Printed part) :
    Printed (commaSeparated parts) := by
  refine printed_commaSeparated ?_
  induction hparts with
  | nil => exact nofun
  | @cons item part items parts hpart _ ih =>
    have hrest := ih fun item' hmem => h item' (List.mem_cons_of_mem item hmem)
    exact List.forall_mem_cons.2 ⟨h item List.mem_cons_self part hpart, hrest⟩

/-- **A compact form is on one line.** -/
theorem printed_compact {j : Json} {cs : List Char} (h : j.compact = .ok cs) : Printed cs := by
  have hsign (negative : Bool) : Printed (if negative then ['-'] else []) := by
    cases negative
    · exact nofun
    · exact printed_singleton (by decide)
  induction j using treeInduction generalizing cs with
  | null => exact Except.ok.inj h ▸ by simp [Printed]
  | bool b => cases b <;> exact Except.ok.inj h ▸ by simp [Printed]
  | int n =>
    rw [compact_int_eq] at h
    split at h
    · exact Except.ok.inj h ▸ printed_decimalInt n
    · cases h
  | real negative n e =>
    exact Except.ok.inj h ▸ ((hsign negative).append (printed_decimal n)).append
      (.cons (by decide) (printed_decimalInt e))
  | infinite negative => exact Except.ok.inj h ▸ (hsign negative).append (by simp [Printed])
  | undefined => exact Except.ok.inj h ▸ by simp [Printed]
  | text s => exact Except.ok.inj h ▸ printed_quoted s.toList
  | array items ih =>
    obtain ⟨parts, hparts, rfl⟩ := compact_array_eq_ok_iff.1 h
    have hinner := printed_parts hparts fun item hitem part hpart => ih item hitem hpart
    exact .append (.cons (by decide) hinner) (printed_singleton (by decide))
  | object fields ih =>
    obtain ⟨parts, hparts, rfl⟩ := compact_object_eq_ok_iff.1 h
    have hinner := printed_parts hparts fun field hfield part ⟨value, hvalue, hpart⟩ =>
      hpart ▸ (printed_quoted _).append (.cons (by decide) (ih field hfield hvalue))
    exact .append (.cons (by decide) hinner) (printed_singleton (by decide))

end Settings.Json
