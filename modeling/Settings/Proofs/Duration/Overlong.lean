import Mathlib
import Settings.Proofs.Duration.Grammar

/-!
# Durations that are too long

The digits of a duration are converted to an integer before its range or its unit is looked
at, and the conversion takes no more than `digitLimit` digits.  A text with more of them is
refused by the conversion and not as a duration, so that its failure is no configuration
error.  Every other text that is refused is malformed or out of range.

The letters after the digits do not have to be a unit for that, and a Kelvin sign counts
among them: it is lowered to the letter `k` before the text is taken apart.

## Main definitions

* `ErrorKind.AboutText` — the errors about a text that is to write a number.
* `Duration.Overlong` — a text has the form of a duration, but too many digits.

## Main results

* `Duration.ofText_of_overlong` — what the parser makes of such a text.
* `Duration.parse_closedUnless` — it fails in no other way than it should on any other text.
* `Duration.raises_format_of_outside` — a literal of more than 64 bits is malformed.
-/

namespace Settings

open Number Text

/-- The errors about a text that is to write a number. -/
inductive ErrorKind.AboutText : ErrorKind → Prop
  | format (value : Value) : AboutText (.format value)
  | range (value : Value) : AboutText (.range value)

namespace Duration

/-- The text has the form of a duration: a sign, digits and letters, between blanks.  It has
more digits than can be converted. -/
structure Overlong (text : String) (digits : List Char) : Prop where
  long : digitLimit < digits.length
  digit : ∀ c ∈ digits, '0' ≤ c ∧ c ≤ '9'
  parts : ∃ negative before letters after, (∀ c ∈ before, isBlank c = true) ∧
    (∀ c ∈ after, isBlank c = true) ∧ (∀ c ∈ letters, c.isAlpha = true ∨ c = kelvinSign) ∧
    text.toList = before ++ (minus negative ++ (digits ++ letters)) ++ after

/-! ### Letters -/

theorem isAlpha_iff (c : Char) :
    c.isAlpha = true ↔ 65 ≤ c.toNat ∧ c.toNat ≤ 90 ∨ 97 ≤ c.toNat ∧ c.toNat ≤ 122 := by
  simp only [Char.isAlpha, Char.isUpper, Char.isLower, Bool.or_eq_true, Bool.and_eq_true,
    decide_eq_true_eq, ge_iff_le, UInt32.le_iff_toNat_le]
  exact Iff.rfl

/-- Capitals are moved by the distance between the alphabets, and nothing else is. -/
theorem toNat_toLower (c : Char) :
    c.toLower.toNat = if 65 ≤ c.toNat ∧ c.toNat ≤ 90 then c.toNat + 32 else c.toNat := by
  have hcapital : ('A'.val ≤ c.val ∧ c.val ≤ 'Z'.val) ↔ 65 ≤ c.toNat ∧ c.toNat ≤ 90 := by
    rw [UInt32.le_iff_toNat_le, UInt32.le_iff_toNat_le]
    exact Iff.rfl
  rcases toLower_eq_self_or c with h | ⟨hlow, hhigh, h⟩
  · rw [h]
    split
    · next hc =>
      exfalso
      -- a capital is not its own lower-case form
      have hval := congrArg Char.val h
      rw [Char.toLower, dif_pos (hcapital.2 hc)] at hval
      have hnat := congrArg UInt32.toNat hval
      have hshift : ('a'.val - 'A'.val).toNat = 32 := rfl
      have hc' : c.val.toNat = c.toNat := rfl
      rw [UInt32.toNat_add, hshift] at hnat
      omega
    · rfl
  · rw [if_pos ⟨hlow, hhigh⟩, h]

/-- The letters of ASCII and the Kelvin sign are what is lowered to small letters. -/
theorem isSmallLetter_asciiLower (c : Char) :
    isSmallLetter (asciiLower c) = true ↔ c.isAlpha = true ∨ c = kelvinSign := by
  by_cases hk : c = kelvinSign
  · subst hk
    exact ⟨fun _ => Or.inr rfl, fun _ => by decide⟩
  · have hlower : asciiLower c = c.toLower := if_neg hk
    have hsmall : isSmallLetter c.toLower = true ↔
        97 ≤ c.toLower.toNat ∧ c.toLower.toNat ≤ 122 := by
      rw [isSmallLetter, Bool.and_eq_true, decide_eq_true_eq, decide_eq_true_eq]
      exact Iff.rfl
    rw [hlower, hsmall, toNat_toLower, isAlpha_iff, or_iff_left hk]
    split <;> omega

/-! ### What the parser makes of them -/

section Overlong

variable {text : String} {digits : List Char}

theorem Overlong.isAsciiDigit (h : Overlong text digits) :
    ∀ c ∈ digits, isAsciiDigit c = true :=
  fun c hc => (isAsciiDigit_iff c).2 (h.digit c hc)

theorem Overlong.ne_nil (h : Overlong text digits) : digits ≠ [] := by
  rintro rfl
  exact absurd h.long (Nat.not_lt_zero _)

/-- The literal of a text that is too long has its digits. -/
theorem Overlong.literal? (h : Overlong text digits) :
    ∃ negative small, literal? (lower (trim text.toList)) = some (negative, digits, small) := by
  obtain ⟨negative, before, letters, after, hbefore, hafter, hletters, htext⟩ := h.parts
  -- letters and digits are no blanks, and are lowered one by one
  have hchar : ∀ c ∈ minus negative ++ (digits ++ letters),
      isBlank c = false ∧ (c.toNat < 0x80 ∨ c = kelvinSign) := by
    intro c hc
    simp only [List.mem_append] at hc
    rcases hc with hc | hc | hc
    · rw [eq_of_mem_minus hc]
      decide
    · have := toNat_of_isAsciiDigit (h.isAsciiDigit c hc)
      exact ⟨isBlank_eq_false (by omega) (by omega), Or.inl (by omega)⟩
    · rcases hletters c hc with halpha | rfl
      · have := (isAlpha_iff c).1 halpha
        exact ⟨isBlank_eq_false (by omega) (by omega), Or.inl (by omega)⟩
      · decide
  have htrim : trim text.toList = minus negative ++ (digits ++ letters) := by
    rw [htext]
    exact trim_append hbefore hafter (fun c hc => (hchar c (List.mem_of_mem_head? hc)).1)
      fun c hc => (hchar c (List.mem_of_getLast? hc)).1
  have hminus : (minus negative).map asciiLower = minus negative := by
    cases negative <;> decide
  have hdigits : digits.map asciiLower = digits := by
    refine (List.map_congr_left fun c hc => ?_).trans (List.map_id digits)
    have := toNat_of_isAsciiDigit (h.isAsciiDigit c hc)
    exact asciiLower_of_lt (by change c.toNat < 65; omega)
  have hsmall : ∀ x ∈ letters.map asciiLower, isSmallLetter x = true := by
    rw [List.forall_mem_map]
    exact fun c hc => (isSmallLetter_asciiLower c).2 (hletters c hc)
  refine ⟨negative, letters.map asciiLower, ?_⟩
  rw [htrim, lower_eq_map fun c hc => (hchar c hc).2, List.map_append, List.map_append, hminus,
    hdigits]
  exact literal?_append negative h.ne_nil h.isAsciiDigit hsmall

/-- **What the parser makes of a text that is too long**: the conversion of its digits fails. -/
theorem ofText_of_overlong (h : Overlong text digits) :
    ofText text = .error (.numeral (.tooLongToRead digits.length)) := by
  obtain ⟨negative, small, hliteral⟩ := h.literal?
  unfold ofText
  rw [hliteral]
  exact if_pos h.long

/-- A text whose literal has too many digits is too long. -/
theorem overlong_of_literal? {small : List Char} {negative : Bool}
    (h : literal? (lower (trim text.toList)) = some (negative, digits, small))
    (hlong : digitLimit < digits.length) : Overlong text digits := by
  obtain ⟨-, hdigit, hsmall, hlower⟩ := of_literal? h
  obtain ⟨before, after, hbefore, hafter, htrim⟩ := exists_eq_append_trim text.toList
  obtain ⟨letters, htext, hletters⟩ := exists_letters hdigit hsmall hlower
  refine ⟨hlong, fun c hc => (isAsciiDigit_iff c).1 (hdigit c hc), negative, before, letters,
    after, hbefore, hafter, ?_, ?_⟩
  · intro c hc
    refine (isSmallLetter_asciiLower c).1 (hsmall _ ?_)
    rw [← hletters]
    exact List.mem_map_of_mem hc
  · rw [← htext]
    exact htrim

end Overlong

/-- The milliseconds of a literal are refused for its range, its unit or its sign. -/
theorem within_ofLiteral (text : String) (count : Int) (letters : List Char) :
    Within ErrorKind.AboutText (ofLiteral text count letters) := by
  have hsign : ∀ ms : Nat, Within ErrorKind.AboutText
      (if count < 0 then .error (.negativeDuration count) else .ok ms : Except Fault Nat) := by
    intro ms
    split
    · exact Within.raises (.range (.int count)) ⟨_, _, rfl, rfl⟩
    · exact Within.ok ms
  unfold ofLiteral
  split
  · exact Within.raises (.format (.text text)) ⟨_, _, rfl, rfl⟩
  · split
    · exact hsign _
    · exact Within.raises (.format (.text text)) ⟨_, _, rfl, rfl⟩
    · exact hsign _

/-- A text that is not too long is read, or refused as a duration. -/
theorem ofText_closedUnless (text : String) :
    ClosedUnless (∃ digits, Overlong text digits) ErrorKind.AboutText (ofText text) where
  within hlong := by
    unfold ofText
    split
    · exact Within.raises (.format (.text text)) ⟨_, _, rfl, rfl⟩
    · next negative digits small hliteral =>
      have hshort : ¬ digitLimit < digits.length := fun h =>
        hlong ⟨digits, overlong_of_literal? hliteral h⟩
      rw [if_neg hshort]
      exact within_ofLiteral text _ small
  escapes := by
    rintro ⟨digits, h⟩
    exact ⟨_, ofText_of_overlong h⟩

/-- **The parser fails as it should on every text that is not too long.** -/
theorem parse_closedUnless (text? : Option String) :
    ClosedUnless (∃ text digits, text? = some text ∧ Overlong text digits) ErrorKind.AboutText
      (parse text?) := by
  cases text? with
  | none =>
    refine Within.closedUnless ?_ (Within.raises (.format .null) ⟨_, _, rfl, rfl⟩)
    rintro ⟨text, digits, h, -⟩
    exact nomatch h
  | some text =>
    refine (ofText_closedUnless text).congr ⟨?_, ?_⟩
    · rintro ⟨digits, h⟩
      exact ⟨text, digits, rfl, h⟩
    · rintro ⟨text', digits, h, hlong⟩
      obtain rfl : text = text' := Option.some.inj h
      exact ⟨digits, hlong⟩

/-- A literal whose integer has more than 64 bits is malformed, if it can be converted. -/
theorem raises_format_of_outside {text : String} {negative : Bool} {digits : List Char}
    {unit : Option TimeUnit} (h : Spells text negative digits unit)
    (hlimit : digits.length ≤ digitLimit)
    (hrange : ¬ (-2 ^ 63 ≤ literalValue negative digits ∧
      literalValue negative digits ≤ 2 ^ 63 - 1)) :
    Raises (parse (some text)) (.format (.text text)) := by
  have hholds : IntWidth.int64.holds (literalValue negative digits) = false := by
    rw [Bool.eq_false_iff, Ne, holds_int64_iff]
    exact hrange
  rw [parse_some, ofText_of_spells h (by rw [h.digitRun_eq]; exact hlimit), if_pos hholds]
  exact ⟨_, _, rfl, rfl⟩

end Duration

end Settings
