import Mathlib
import Settings.Text.Lower

/-!
# Lower-case forms in ASCII

Of the characters beyond ASCII only the Kelvin sign has a lower-case form within ASCII, the
letter `k`.  So a text whose lower-case form is all ASCII is ASCII itself, Kelvin signs apart,
and is lowered one character at a time.

## Main definitions

* `kelvinSign`, `asciiLower` — the exception, and the lower-case form of one such character.

## Main results

* `ascii_of_ascii_lower` — a text with a lower-case form in ASCII.
* `lower_eq_map` — its lower-case form.
-/

namespace Settings.Text

/-- The Kelvin sign, which looks like the letter `K`. -/
def kelvinSign : Char := '\u212a'

/-- The lower-case form of a character of ASCII or of the Kelvin sign. -/
def asciiLower (c : Char) : Char := if c = kelvinSign then 'k' else c.toLower

/-- All other runs lead to characters beyond ASCII. -/
theorem lowerRuns_image :
    ∀ run ∈ lowerRuns, (run.1 = 0x212A ∧ run.2.1 = 0x212A) ∨
      (0x80 ≤ run.2.2.2 ∧ (run.2.2.2 + (run.2.1 - run.1) < 0xD800 ∨
        (0xDFFF < run.2.2.2 ∧ run.2.2.2 + (run.2.1 - run.1) < 0x110000))) := by
  decide +kernel

theorem le_toNat_smallSigma (before after : List Char) :
    0x80 ≤ (smallSigma before after).toNat := by
  unfold smallSigma
  split <;> decide

/-- A character beyond ASCII, the Kelvin sign apart, has a lower-case form beyond ASCII. -/
theorem exists_mem_lowerChar {c : Char} (hc : 0x80 ≤ c.toNat) (hk : c ≠ kelvinSign) :
    ∃ x ∈ lowerChar c, 0x80 ≤ x.toNat := by
  unfold lowerChar
  rw [if_neg (Nat.not_lt.2 hc)]
  split
  · exact ⟨'\u0307', by simp, by decide⟩
  · split
    · next run hrun =>
      refine ⟨_, List.mem_singleton_self _, ?_⟩
      have hcovers := List.find?_some hrun
      simp only [CaseRun.covers, Bool.and_eq_true, decide_eq_true_eq] at hcovers
      obtain ⟨⟨hlow, hhigh⟩, -⟩ := hcovers
      rcases lowerRuns_image run (List.mem_of_find?_eq_some hrun) with ⟨h1, h2⟩ | ⟨himage, hvalid⟩
      · -- the run of the Kelvin sign has no other character
        exfalso
        refine hk (Char.toNat_inj.1 ?_)
        have : kelvinSign.toNat = 0x212A := rfl
        omega
      · have hchar : (run.2.2.2 + (c.toNat - run.1)).isValidChar := by
          unfold Nat.isValidChar
          omega
        rw [Char.toNat_ofNat, if_pos hchar]
        omega
    · exact ⟨c, List.mem_singleton_self c, hc⟩

/-- **A text with a lower-case form in ASCII** has no characters but those of ASCII and Kelvin
signs. -/
theorem ascii_of_ascii_lower {cs : List Char} (h : ∀ x ∈ lower cs, x.toNat < 0x80) :
    ∀ c ∈ cs, c.toNat < 0x80 ∨ c = kelvinSign := by
  have key : ∀ (cs before : List Char), (∀ x ∈ lowerAfter before cs, x.toNat < 0x80) →
      ∀ c ∈ cs, c.toNat < 0x80 ∨ c = kelvinSign := by
    intro cs
    induction cs with
    | nil => exact fun _ _ c hc => absurd hc List.not_mem_nil
    | cons d cs ih =>
      intro before h c hc
      rw [lowerAfter] at h
      rcases List.mem_cons.1 hc with rfl | hc
      · by_contra hne
        rw [not_or, Nat.not_lt] at hne
        obtain ⟨x, hx, hlow⟩ : ∃ x ∈ (if c = 'Σ' then [smallSigma before cs] else lowerChar c),
            0x80 ≤ x.toNat := by
          split
          · exact ⟨_, List.mem_singleton_self _, le_toNat_smallSigma before cs⟩
          · exact exists_mem_lowerChar hne.1 hne.2
        exact Nat.not_lt.2 hlow (h x (List.mem_append_left _ hx))
      · exact ih (d :: before) (fun x hx => h x (List.mem_append_right _ hx)) c hc
  exact key cs [] h

theorem lowerChar_eq {c : Char} (h : c.toNat < 0x80 ∨ c = kelvinSign) :
    lowerChar c = [asciiLower c] := by
  by_cases hk : c = kelvinSign
  · subst hk
    decide
  · rw [lowerChar, if_pos (h.resolve_right hk), asciiLower, if_neg hk]

/-- **The lower-case form of a text** of ASCII and Kelvin signs, character by character. -/
theorem lower_eq_map {cs : List Char} (h : ∀ c ∈ cs, c.toNat < 0x80 ∨ c = kelvinSign) :
    lower cs = cs.map asciiLower := by
  have hsigma : 'Σ' ∉ cs := by
    intro hmem
    rcases h _ hmem with hlow | hk
    · exact absurd hlow (by decide)
    · exact absurd hk (by decide)
  rw [lower_of_not_mem hsigma, List.map_eq_flatMap]
  exact List.flatMap_congr fun c hc => lowerChar_eq (h c hc)

/-! ### What a character was before -/

/-- The rule for ASCII moves capitals by the distance between the alphabets. -/
theorem toLower_eq_self_or (c : Char) :
    c.toLower = c ∨ (65 ≤ c.toNat ∧ c.toNat ≤ 90 ∧ c.toLower.toNat = c.toNat + 32) := by
  unfold Char.toLower
  split
  · next h =>
    have hlow : 65 ≤ c.val.toNat := UInt32.le_iff_toNat_le.1 h.1
    have hhigh : c.val.toNat ≤ 90 := UInt32.le_iff_toNat_le.1 h.2
    have hshift : ('a'.val - 'A'.val).toNat = 32 := rfl
    refine Or.inr ⟨hlow, hhigh, ?_⟩
    change (c.val + ('a'.val - 'A'.val)).toNat = c.val.toNat + 32
    rw [UInt32.toNat_add, hshift]
    omega
  · exact Or.inl rfl

/-- A character whose lower-case form comes before the small letters is that form itself. -/
theorem eq_of_asciiLower {c x : Char} (h : asciiLower c = x) (hx : x.toNat < 'a'.toNat) :
    c = x := by
  subst h
  unfold asciiLower at hx ⊢
  split at hx
  · exact absurd hx (by decide)
  · next hk =>
    rw [if_neg hk]
    rcases toLower_eq_self_or c with h | ⟨hlow, -, h⟩
    · exact h.symm
    · have : 'a'.toNat = 97 := rfl
      omega

theorem eq_of_map_asciiLower {cs xs : List Char} (h : cs.map asciiLower = xs)
    (hx : ∀ x ∈ xs, x.toNat < 'a'.toNat) : cs = xs := by
  induction cs generalizing xs with
  | nil => exact h
  | cons c cs ih =>
    subst h
    rw [List.map_cons, List.forall_mem_cons] at hx
    rw [List.map_cons, ← eq_of_asciiLower rfl hx.1, ← ih rfl hx.2]

/-- A character whose lower-case form is not `k` is no Kelvin sign. -/
theorem toLower_eq_of_asciiLower {c x : Char} (h : asciiLower c = x) (hx : x ≠ 'k') :
    c.toLower = x := by
  unfold asciiLower at h
  split at h
  · exact absurd h.symm hx
  · exact h

/-- Characters that come before the capitals stay as they are. -/
theorem toLower_of_lt {c : Char} (h : c.toNat < 'A'.toNat) : c.toLower = c := by
  have hA : 'A'.toNat = 65 := rfl
  rcases toLower_eq_self_or c with h' | ⟨hlow, -⟩
  · exact h'
  · omega

theorem asciiLower_of_lt {c : Char} (h : c.toNat < 'A'.toNat) : asciiLower c = c := by
  have hk : c ≠ kelvinSign := by
    rintro rfl
    exact absurd h (by decide)
  rw [asciiLower, if_neg hk, toLower_of_lt h]

/-- Texts of ASCII are lowered by the rule for ASCII. -/
theorem lower_eq_map_toLower {cs : List Char} (h : ∀ c ∈ cs, c.toNat < 0x80) :
    lower cs = cs.map Char.toLower := by
  rw [lower_eq_map fun c hc => Or.inl (h c hc)]
  refine List.map_congr_left fun c hc => ?_
  have hk : c ≠ kelvinSign := by
    rintro rfl
    exact absurd (h _ hc) (by decide)
  rw [asciiLower, if_neg hk]

end Settings.Text
