import Mathlib
import Settings.Duration
import Settings.Proofs.Fault
import Settings.Proofs.Text.Lower
import Settings.Proofs.Text.Span

/-!
# The grammar of durations

A duration is written as a sign, digits and a unit in any case of letters, between blanks.
`Spells` says so of the text as it is, without trimming it or lowering its letters; the
parser does both and yet takes no other texts, since the only character beyond ASCII that
lowering brings into ASCII stands in no unit.

## Main definitions

* `TimeUnit.letters` — the letters of a unit.
* `Duration.Spells` — a text is written by the grammar.
* `Duration.literalValue`, `Duration.converted` — its integer, and that many units.
* `Duration.digitRun` — the digits that a text begins with, blanks and a sign aside.

## Main results

* `Duration.ofText_of_spells` — what the parser makes of a text of the grammar.
* `Duration.spells_or_raises` — it takes no others.
* `Duration.parse_iff_grammar` — **the parser accepts exactly its grammar.**
-/

namespace Settings

open Number Text

/-- The small letters of a unit; there are none for no unit. -/
def TimeUnit.letters : Option TimeUnit → List Char
  | none => []
  | some u => u.suffix.toList

namespace Duration

/-- The sign of an integer. -/
def minus (negative : Bool) : List Char := if negative then ['-'] else []

/-- The text is written as a sign, digits and the letters of a unit in any case, between
blanks. -/
structure Spells (text : String) (negative : Bool) (digits : List Char)
    (unit : Option TimeUnit) : Prop where
  /-- There is a digit. -/
  ne_nil : digits ≠ []
  /-- The digits are those of ASCII. -/
  digit : ∀ c ∈ digits, '0' ≤ c ∧ c ≤ '9'
  /-- The parts follow one another. -/
  parts : ∃ before letters after, (∀ c ∈ before, isBlank c = true) ∧
    (∀ c ∈ after, isBlank c = true) ∧ letters.map Char.toLower = TimeUnit.letters unit ∧
    text.toList = before ++ (minus negative ++ (digits ++ letters)) ++ after

/-- The integer that a sign and digits write. -/
def literalValue (negative : Bool) (digits : List Char) : Int :=
  (if negative then -1 else 1) *
    (Nat.ofDigits 10 (digits.map fun c => c.toNat - '0'.toNat).reverse : Nat)

/-- So many units in milliseconds: microseconds are rounded down, and the greatest integer of
64 bits is not exceeded. -/
def converted (n : Nat) : Option TimeUnit → Nat
  | none => n
  | some u => min (n * u.micros / 1000) (2 ^ 63 - 1)

/-- The digits that a text begins with, after blanks and a sign. -/
def digitRun (text : String) : List Char :=
  (takeMinus (trimLeft text.toList)).2.takeWhile isAsciiDigit

/-! ### Characters -/

theorem toNat_of_isAsciiDigit {c : Char} (h : isAsciiDigit c = true) :
    48 ≤ c.toNat ∧ c.toNat ≤ 57 := by
  rw [isAsciiDigit, Bool.and_eq_true, decide_eq_true_eq, decide_eq_true_eq] at h
  exact h

theorem isAsciiDigit_iff (c : Char) : isAsciiDigit c = true ↔ '0' ≤ c ∧ c ≤ '9' := by
  rw [isAsciiDigit, Bool.and_eq_true, decide_eq_true_eq, decide_eq_true_eq]
  exact Iff.rfl

theorem isAsciiDigit_eq_false {c : Char} (h : 57 < c.toNat) : isAsciiDigit c = false := by
  rw [Bool.eq_false_iff]
  intro hd
  exact Nat.not_le.2 h (toNat_of_isAsciiDigit hd).2

theorem toNat_of_isSmallLetter {c : Char} (h : isSmallLetter c = true) :
    97 ≤ c.toNat ∧ c.toNat ≤ 122 := by
  rw [isSmallLetter, Bool.and_eq_true, decide_eq_true_eq, decide_eq_true_eq] at h
  exact h

theorem isAsciiDigit_of_isBlank {c : Char} (h : isBlank c = true) : isAsciiDigit c = false := by
  rw [Bool.eq_false_iff]
  intro hd
  have hc := toNat_of_isAsciiDigit hd
  rw [isBlank_eq_false (by omega) (by omega)] at h
  exact Bool.noConfusion h

/-- The units are written in small letters of ASCII, and none of them has a `k`. -/
theorem mem_letters {unit : Option TimeUnit} {c : Char} (h : c ∈ TimeUnit.letters unit) :
    isSmallLetter c = true ∧ c ≠ 'k' := by
  have key : ∀ u : TimeUnit, (u.suffix.toList.all fun c => isSmallLetter c && c != 'k') = true := by
    intro u
    cases u <;> decide
  cases unit with
  | none => exact absurd h List.not_mem_nil
  | some u => simpa using List.all_eq_true.1 (key u) c h

/-- A letter of a unit in any case is a letter of ASCII. -/
theorem toNat_of_mem_letters {letters : List Char} {unit : Option TimeUnit}
    (h : letters.map Char.toLower = TimeUnit.letters unit) {c : Char} (hc : c ∈ letters) :
    65 ≤ c.toNat ∧ c.toNat < 0x80 := by
  have hmem : c.toLower ∈ TimeUnit.letters unit := h ▸ List.mem_map_of_mem hc
  have hsmall := toNat_of_isSmallLetter (mem_letters hmem).1
  rcases toLower_eq_self_or c with h' | ⟨hlow, hhigh, -⟩
  · rw [h'] at hsmall
    omega
  · omega

/-! ### Sign, digits and letters -/

theorem eq_of_mem_minus {negative : Bool} {c : Char} (h : c ∈ minus negative) : c = '-' := by
  cases negative with
  | true => exact List.mem_singleton.1 h
  | false => exact absurd h List.not_mem_nil

theorem minus_append_takeMinus (cs : List Char) :
    minus (takeMinus cs).1 ++ (takeMinus cs).2 = cs := by
  unfold takeMinus
  split <;> rfl

theorem takeMinus_append (negative : Bool) {rest : List Char} (h : rest.head? ≠ some '-') :
    takeMinus (minus negative ++ rest) = (negative, rest) := by
  cases negative with
  | true => rfl
  | false =>
    change takeMinus rest = (false, rest)
    unfold takeMinus
    split
    · exact absurd rfl h
    · rfl

/-- A run of digits does not begin with a sign. -/
theorem head?_digits_append {digits : List Char} (hne : digits ≠ [])
    (hdigit : ∀ c ∈ digits, isAsciiDigit c = true) (rest : List Char) :
    (digits ++ rest).head? ≠ some '-' := by
  rw [List.head?_append_of_ne_nil _ hne]
  intro h
  exact absurd (hdigit '-' (List.mem_of_mem_head? h)) (by decide)

theorem literal?_append (negative : Bool) {digits letters : List Char} (hne : digits ≠ [])
    (hdigit : ∀ c ∈ digits, isAsciiDigit c = true)
    (hletter : ∀ c ∈ letters, isSmallLetter c = true) :
    literal? (minus negative ++ (digits ++ letters)) = some (negative, digits, letters) := by
  have hstop : ∀ c, letters.head? = some c → isAsciiDigit c = false := by
    intro c hc
    have hsmall := toNat_of_isSmallLetter (hletter c (List.mem_of_mem_head? hc))
    exact isAsciiDigit_eq_false (by omega)
  unfold literal?
  rw [takeMinus_append negative (head?_digits_append hne hdigit letters)]
  dsimp only
  rw [takeWhile_append_of_stop hdigit hstop, dropWhile_append_of_stop hdigit hstop,
    if_pos ⟨hne, List.all_eq_true.2 hletter⟩]

theorem of_literal? {cs digits letters : List Char} {negative : Bool}
    (h : literal? cs = some (negative, digits, letters)) :
    digits ≠ [] ∧ (∀ c ∈ digits, isAsciiDigit c = true) ∧
      (∀ c ∈ letters, isSmallLetter c = true) ∧ cs = minus negative ++ (digits ++ letters) := by
  unfold literal? at h
  dsimp only at h
  split at h
  · next hparts =>
    obtain ⟨hneg, hdig, hlet⟩ : (takeMinus cs).1 = negative ∧
        (takeMinus cs).2.takeWhile isAsciiDigit = digits ∧
        (takeMinus cs).2.dropWhile isAsciiDigit = letters := by
      simpa using h
    refine ⟨hdig ▸ hparts.1, ?_, ?_, ?_⟩
    · rw [← hdig]
      exact fun c hc => List.mem_takeWhile_imp hc
    · rw [← hlet]
      exact List.all_eq_true.1 hparts.2
    · rw [← hdig, ← hlet, ← hneg, List.takeWhile_append_dropWhile, minus_append_takeMinus]
  · exact nomatch h

/-! ### From the text to the literal -/

/-- The digits that a text of this form begins with. -/
theorem digitRun_eq {text : String} (negative : Bool) {before digits rest : List Char}
    (hbefore : ∀ c ∈ before, isBlank c = true) (hne : digits ≠ [])
    (hdigit : ∀ c ∈ digits, isAsciiDigit c = true)
    (hstop : ∀ c, rest.head? = some c → isAsciiDigit c = false)
    (htext : text.toList = before ++ (minus negative ++ (digits ++ rest))) :
    digitRun text = digits := by
  have hfirst : ∀ c, (minus negative ++ (digits ++ rest)).head? = some c → isBlank c = false := by
    intro c hc
    cases negative with
    | true =>
      obtain rfl : '-' = c := Option.some.inj hc
      decide
    | false =>
      have hmem : c ∈ digits := by
        rw [minus, if_neg Bool.false_ne_true, List.nil_append,
          List.head?_append_of_ne_nil _ hne] at hc
        exact List.mem_of_mem_head? hc
      have := toNat_of_isAsciiDigit (hdigit c hmem)
      exact isBlank_eq_false (by omega) (by omega)
  have htrim : trimLeft text.toList = minus negative ++ (digits ++ rest) := by
    rw [htext, trimLeft, List.dropWhile_append_of_pos hbefore]
    exact trimLeft_eq_self hfirst
  rw [digitRun, htrim, takeMinus_append negative (head?_digits_append hne hdigit rest)]
  exact takeWhile_append_of_stop hdigit hstop

section Spells

variable {text : String} {negative : Bool} {digits : List Char} {unit : Option TimeUnit}

theorem Spells.isAsciiDigit (h : Spells text negative digits unit) :
    ∀ c ∈ digits, isAsciiDigit c = true :=
  fun c hc => (isAsciiDigit_iff c).2 (h.digit c hc)

theorem Spells.digitRun_eq (h : Spells text negative digits unit) : digitRun text = digits := by
  obtain ⟨before, letters, after, hbefore, hafter, hletters, htext⟩ := h.parts
  have hstop : ∀ c, (letters ++ after).head? = some c → Text.isAsciiDigit c = false := by
    intro c hc
    rcases List.mem_append.1 (List.mem_of_mem_head? hc) with hc | hc
    · have hlow := (toNat_of_mem_letters hletters hc).1
      exact isAsciiDigit_eq_false (by omega)
    · exact isAsciiDigit_of_isBlank (hafter c hc)
  refine Duration.digitRun_eq negative hbefore h.ne_nil h.isAsciiDigit hstop ?_
  rw [htext]
  simp only [List.append_assoc]

/-- The literal of a text of the grammar, trimmed and lowered. -/
theorem Spells.literal? (h : Spells text negative digits unit) :
    literal? (lower (trim text.toList)) = some (negative, digits, TimeUnit.letters unit) := by
  obtain ⟨before, letters, after, hbefore, hafter, hletters, htext⟩ := h.parts
  -- every character of the literal is a visible one of ASCII
  have hvisible : ∀ c ∈ minus negative ++ (digits ++ letters),
      0x21 ≤ c.toNat ∧ c.toNat < 0x80 := by
    intro c hc
    simp only [List.mem_append] at hc
    rcases hc with hc | hc | hc
    · rw [eq_of_mem_minus hc]
      decide
    · have := toNat_of_isAsciiDigit (h.isAsciiDigit c hc)
      omega
    · have := toNat_of_mem_letters hletters hc
      omega
  have hsolid : ∀ c ∈ minus negative ++ (digits ++ letters), isBlank c = false := fun c hc =>
    isBlank_eq_false (hvisible c hc).1 (hvisible c hc).2
  have htrim : trim text.toList = minus negative ++ (digits ++ letters) := by
    rw [htext]
    exact trim_append hbefore hafter (fun c hc => hsolid c (List.mem_of_mem_head? hc))
      fun c hc => hsolid c (List.mem_of_getLast? hc)
  have hminus : (minus negative).map Char.toLower = minus negative := by
    cases negative <;> rfl
  have hdigits : digits.map Char.toLower = digits := by
    refine (List.map_congr_left fun c hc => ?_).trans (List.map_id digits)
    have := toNat_of_isAsciiDigit (h.isAsciiDigit c hc)
    exact toLower_of_lt (by change c.toNat < 65; omega)
  rw [htrim, lower_eq_map_toLower fun c hc => (hvisible c hc).2, List.map_append,
    List.map_append, hminus, hdigits, hletters]
  exact literal?_append negative h.ne_nil h.isAsciiDigit fun c hc => (mem_letters hc).1

end Spells

/-! ### From the literal to the duration -/

theorem ofDigits_eq (ds : List Nat) : Number.ofDigits ds = Nat.ofDigits 10 ds.reverse := by
  induction ds using List.reverseRecOn with
  | nil => rfl
  | append_singleton ds d ih =>
    rw [ofDigits_append_singleton, List.reverse_append, List.reverse_singleton,
      List.singleton_append, Nat.ofDigits_cons, ih, Nat.add_comm]

theorem signed_digitsValue (negative : Bool) (digits : List Char) :
    signed negative (digitsValue digits) = literalValue negative digits := by
  rw [digitsValue, ofDigits_eq, signed, literalValue]
  cases negative <;> simp

theorem ofSuffix?_letters (u : TimeUnit) :
    TimeUnit.ofSuffix? (String.ofList (TimeUnit.letters (some u))) = some u := by
  rw [TimeUnit.letters, String.ofList_toList, TimeUnit.ofSuffix?_suffix]

theorem suffix_of_ofSuffix? {suffix : String} {u : TimeUnit}
    (h : TimeUnit.ofSuffix? suffix = some u) : u.suffix = suffix := by
  simpa using List.find?_some h

/-- A count of a unit is checked for its range, then for its sign. -/
theorem ofLiteral_letters (text : String) (n : Int) (unit : Option TimeUnit) :
    ofLiteral text n (TimeUnit.letters unit)
      = if IntWidth.int64.holds n = false then .error (.malformedDuration (some text))
        else if n < 0 then .error (.negativeDuration n) else .ok (converted n.toNat unit) := by
  unfold ofLiteral
  cases hn : IntWidth.int64.holds n with
  | false => rfl
  | true =>
    cases unit with
    | none => rfl
    | some u =>
      rw [ofSuffix?_letters]
      cases u <;> rfl

/-- Letters that stand for no unit are refused, whatever count precedes them. -/
theorem raises_ofLiteral {text : String} {letters : List Char} (n : Int)
    (h : ∀ unit, letters ≠ TimeUnit.letters unit) :
    Raises (ofLiteral text n letters) (.format (.text text)) := by
  unfold ofLiteral
  split
  · exact ⟨_, _, rfl, rfl⟩
  · split
    · exact absurd rfl (h none)
    · exact ⟨_, _, rfl, rfl⟩
    · next u _ hu =>
      refine absurd ?_ (h (some u))
      rw [TimeUnit.letters, suffix_of_ofSuffix? hu, String.toList_ofList]

/-- **What the parser makes of a text of the grammar.** -/
theorem ofText_of_spells {text : String} {negative : Bool} {digits : List Char}
    {unit : Option TimeUnit} (h : Spells text negative digits unit)
    (hlimit : (digitRun text).length ≤ digitLimit) :
    ofText text
      = if IntWidth.int64.holds (literalValue negative digits) = false then
          .error (.malformedDuration (some text))
        else if literalValue negative digits < 0 then
          .error (.negativeDuration (literalValue negative digits))
        else .ok (converted (literalValue negative digits).toNat unit) := by
  rw [h.digitRun_eq] at hlimit
  unfold ofText
  rw [h.literal?]
  dsimp only
  rw [if_neg (Nat.not_lt.2 hlimit), ofLiteral_letters, signed_digitsValue]

/-- A text whose lower-case form is a literal has the letters of that literal in some case. -/
theorem exists_letters {cs digits small : List Char} {negative : Bool}
    (hdigit : ∀ c ∈ digits, isAsciiDigit c = true) (hsmall : ∀ c ∈ small, isSmallLetter c = true)
    (h : lower cs = minus negative ++ (digits ++ small)) :
    ∃ letters, cs = minus negative ++ (digits ++ letters) ∧ letters.map asciiLower = small := by
  have hsign : ∀ c ∈ minus negative, c.toNat < 'a'.toNat := by
    intro c hc
    rw [eq_of_mem_minus hc]
    decide
  have hdig : ∀ c ∈ digits, c.toNat < 'a'.toNat := by
    intro c hc
    have := toNat_of_isAsciiDigit (hdigit c hc)
    change c.toNat < 97
    omega
  have hascii : ∀ x ∈ lower cs, x.toNat < 0x80 := by
    intro x hx
    have ha : 'a'.toNat = 97 := rfl
    rw [h, List.mem_append, List.mem_append] at hx
    rcases hx with hx | hx | hx
    · have := hsign x hx
      omega
    · have := hdig x hx
      omega
    · have := toNat_of_isSmallLetter (hsmall x hx)
      omega
  rw [lower_eq_map (ascii_of_ascii_lower hascii)] at h
  obtain ⟨sign, rest, rfl, hsign', hrest⟩ := List.map_eq_append_iff.1 h
  obtain ⟨run, letters, rfl, hrun, hletters⟩ := List.map_eq_append_iff.1 hrest
  exact ⟨letters, by rw [eq_of_map_asciiLower hsign' hsign, eq_of_map_asciiLower hrun hdig],
    hletters⟩

/-- **The parser takes no texts but those of the grammar.** -/
theorem spells_or_raises {text : String} (hlimit : (digitRun text).length ≤ digitLimit) :
    (∃ negative digits unit, Spells text negative digits unit) ∨
      Raises (ofText text) (.format (.text text)) := by
  cases hlit : literal? (lower (trim text.toList)) with
  | none =>
    right
    unfold ofText
    rw [hlit]
    exact ⟨_, _, rfl, rfl⟩
  | some literal =>
    obtain ⟨negative, digits, small⟩ := literal
    obtain ⟨hne, hdigit, hsmall, hlower⟩ := of_literal? hlit
    obtain ⟨before, after, hbefore, hafter, htrim⟩ := exists_eq_append_trim text.toList
    obtain ⟨letters, htext, hletters⟩ := exists_letters hdigit hsmall hlower
    by_cases hunit : ∃ unit, small = TimeUnit.letters unit
    · obtain ⟨unit, rfl⟩ := hunit
      refine Or.inl ⟨negative, digits, unit, hne, fun c hc => (isAsciiDigit_iff c).1 (hdigit c hc),
        before, letters, after, hbefore, hafter, ?_, by rw [← htext]; exact htrim⟩
      -- no unit has a `k`, so that no letter is a Kelvin sign
      rw [← hletters]
      refine List.map_congr_left fun c hc => ?_
      have hmem : asciiLower c ∈ TimeUnit.letters unit := hletters ▸ List.mem_map_of_mem hc
      exact toLower_eq_of_asciiLower rfl (mem_letters hmem).2
    · right
      have hstop : ∀ c, (letters ++ after).head? = some c → isAsciiDigit c = false := by
        intro c hc
        rcases List.mem_append.1 (List.mem_of_mem_head? hc) with hc | hc
        · rw [Bool.eq_false_iff]
          intro hd
          have hlow := toNat_of_isAsciiDigit hd
          have hsame : asciiLower c = c := asciiLower_of_lt (by change c.toNat < 65; omega)
          have hmem : asciiLower c ∈ small := hletters ▸ List.mem_map_of_mem hc
          have := toNat_of_isSmallLetter (hsmall _ (hsame ▸ hmem))
          omega
        · exact isAsciiDigit_of_isBlank (hafter c hc)
      have hrun : digitRun text = digits := by
        refine digitRun_eq negative hbefore hne hdigit hstop ?_
        rw [htrim, htext]
        simp only [List.append_assoc]
      rw [hrun] at hlimit
      unfold ofText
      rw [hlit]
      dsimp only
      rw [if_neg (Nat.not_lt.2 hlimit)]
      exact raises_ofLiteral _ fun unit hunit' => hunit ⟨unit, hunit'⟩

/-! ### The parser and its grammar -/

theorem holds_int64_iff (n : Int) :
    IntWidth.int64.holds n = true ↔ -2 ^ 63 ≤ n ∧ n ≤ 2 ^ 63 - 1 := IntWidth.int64.holds_iff n

section Outcomes

variable {text : String} {negative : Bool} {digits : List Char} {unit : Option TimeUnit}

/-- Nothing but blanks and characters of ASCII occurs in a text of the grammar. -/
theorem Spells.ascii (h : Spells text negative digits unit) :
    ∀ c ∈ text.toList, isBlank c = true ∨ c.toNat < 0x80 := by
  obtain ⟨before, letters, after, hbefore, hafter, hletters, htext⟩ := h.parts
  intro c hc
  simp only [htext, List.mem_append] at hc
  rcases hc with (hc | hc | hc | hc) | hc
  · exact Or.inl (hbefore c hc)
  · exact Or.inr (by rw [eq_of_mem_minus hc]; decide)
  · have := toNat_of_isAsciiDigit (h.isAsciiDigit c hc)
    exact Or.inr (by omega)
  · exact Or.inr (toNat_of_mem_letters hletters hc).2
  · exact Or.inl (hafter c hc)

theorem ofText_of_nonneg (h : Spells text negative digits unit)
    (hlimit : (digitRun text).length ≤ digitLimit) (hsign : 0 ≤ literalValue negative digits)
    (hmax : literalValue negative digits ≤ 2 ^ 63 - 1) :
    ofText text = .ok (converted (literalValue negative digits).toNat unit) := by
  have hholds := (holds_int64_iff _).2 ⟨by omega, hmax⟩
  rw [ofText_of_spells h hlimit, hholds, if_neg Bool.true_eq_false_eq_False.elim,
    if_neg (Int.not_lt.2 hsign)]

theorem raises_of_neg (h : Spells text negative digits unit)
    (hlimit : (digitRun text).length ≤ digitLimit)
    (hmin : -2 ^ 63 ≤ literalValue negative digits) (hsign : literalValue negative digits < 0) :
    Raises (ofText text) (.range (.int (literalValue negative digits))) := by
  have hholds := (holds_int64_iff _).2 ⟨hmin, by omega⟩
  rw [ofText_of_spells h hlimit, hholds, if_neg Bool.true_eq_false_eq_False.elim, if_pos hsign]
  exact ⟨_, _, rfl, rfl⟩

/-- The text is written by the grammar with an integer of 64 bits. -/
def InRange (text : String) : Prop :=
  ∃ negative digits unit, Spells text negative digits unit ∧
    -2 ^ 63 ≤ literalValue negative digits ∧ literalValue negative digits ≤ 2 ^ 63 - 1

theorem raises_of_not_inRange (hlimit : (digitRun text).length ≤ digitLimit)
    (h : ¬ InRange text) : Raises (ofText text) (.format (.text text)) := by
  rcases spells_or_raises hlimit with ⟨negative, digits, unit, hspells⟩ | hraises
  · have hholds : IntWidth.int64.holds (literalValue negative digits) = false := by
      rw [Bool.eq_false_iff, Ne, holds_int64_iff]
      exact fun hrange => h ⟨negative, digits, unit, hspells, hrange⟩
    rw [ofText_of_spells hspells hlimit, if_pos hholds]
    exact ⟨_, _, rfl, rfl⟩
  · exact hraises

/-- Of a text in range the parser says its milliseconds or that it is negative. -/
theorem InRange.ok_or_raises (hlimit : (digitRun text).length ≤ digitLimit) (h : InRange text) :
    ∃ negative digits unit, Spells text negative digits unit ∧
      (0 ≤ literalValue negative digits ∧ literalValue negative digits ≤ 2 ^ 63 - 1 ∧
          ofText text = .ok (converted (literalValue negative digits).toNat unit) ∨
        -2 ^ 63 ≤ literalValue negative digits ∧ literalValue negative digits < 0 ∧
          Raises (ofText text) (.range (.int (literalValue negative digits)))) := by
  obtain ⟨negative, digits, unit, hspells, hmin, hmax⟩ := h
  refine ⟨negative, digits, unit, hspells, ?_⟩
  -- the range is checked before the sign, so that only here the sign decides
  rcases lt_or_ge (literalValue negative digits) 0 with hsign | hsign
  · exact Or.inr ⟨hmin, hsign, raises_of_neg hspells hlimit hmin hsign⟩
  · exact Or.inl ⟨hsign, hmax, ofText_of_nonneg hspells hlimit hsign hmax⟩

theorem ofText_eq_ok_iff (hlimit : (digitRun text).length ≤ digitLimit) (ms : Nat) :
    ofText text = .ok ms ↔ ∃ negative digits unit, Spells text negative digits unit ∧
      0 ≤ literalValue negative digits ∧ literalValue negative digits ≤ 2 ^ 63 - 1 ∧
      ms = converted (literalValue negative digits).toNat unit := by
  constructor
  · intro hok
    have hin : InRange text := by
      by_contra hnot
      exact not_raises_ok (hok ▸ raises_of_not_inRange hlimit hnot)
    obtain ⟨negative, digits, unit, hspells, ⟨hsign, hmax, heq⟩ | ⟨-, -, hraises⟩⟩ :=
      hin.ok_or_raises hlimit
    · exact ⟨negative, digits, unit, hspells, hsign, hmax, Except.ok.inj (hok.symm.trans heq)⟩
    · exact absurd (hok ▸ hraises) not_raises_ok
  · rintro ⟨negative, digits, unit, hspells, hsign, hmax, rfl⟩
    exact ofText_of_nonneg hspells hlimit hsign hmax

theorem raises_range_iff (hlimit : (digitRun text).length ≤ digitLimit) (v : Value) :
    Raises (ofText text) (.range v) ↔ ∃ negative digits unit, Spells text negative digits unit ∧
      -2 ^ 63 ≤ literalValue negative digits ∧ literalValue negative digits < 0 ∧
      v = .int (literalValue negative digits) := by
  constructor
  · intro hrange
    have hin : InRange text := by
      by_contra hnot
      exact nomatch hrange.kind_unique (raises_of_not_inRange hlimit hnot)
    obtain ⟨negative, digits, unit, hspells, ⟨-, -, heq⟩ | ⟨hmin, hsign, hraises⟩⟩ :=
      hin.ok_or_raises hlimit
    · exact absurd (heq ▸ hrange) not_raises_ok
    · exact ⟨negative, digits, unit, hspells, hmin, hsign,
        ErrorKind.range.inj (hrange.kind_unique hraises)⟩
  · rintro ⟨negative, digits, unit, hspells, hmin, hsign, rfl⟩
    exact raises_of_neg hspells hlimit hmin hsign

theorem raises_format_iff (hlimit : (digitRun text).length ≤ digitLimit) :
    Raises (ofText text) (.format (.text text)) ↔ ¬ InRange text := by
  refine ⟨fun hformat hin => ?_, raises_of_not_inRange hlimit⟩
  obtain ⟨_, _, _, -, ⟨-, -, heq⟩ | ⟨-, -, hraises⟩⟩ := hin.ok_or_raises hlimit
  · exact not_raises_ok (heq ▸ hformat)
  · exact nomatch hformat.kind_unique hraises

end Outcomes

/-- **The parser accepts exactly its grammar.**  It returns the milliseconds of a text of the
grammar whose integer has 64 bits and is not negative; a negative one is out of range; any
other text is malformed, among them those whose integer has more bits.  No letter or digit
beyond ASCII is ever taken. -/
theorem parse_iff_grammar (text : String) (hlimit : (digitRun text).length ≤ digitLimit) :
    (∀ ms, parse (some text) = .ok ms ↔ ∃ negative digits unit,
        Spells text negative digits unit ∧ 0 ≤ literalValue negative digits ∧
          literalValue negative digits ≤ 2 ^ 63 - 1 ∧
          ms = converted (literalValue negative digits).toNat unit) ∧
      (∀ v, Raises (parse (some text)) (.range v) ↔ ∃ negative digits unit,
        Spells text negative digits unit ∧ -2 ^ 63 ≤ literalValue negative digits ∧
          literalValue negative digits < 0 ∧ v = .int (literalValue negative digits)) ∧
      (Raises (parse (some text)) (.format (.text text)) ↔ ¬ ∃ negative digits unit,
        Spells text negative digits unit ∧ -2 ^ 63 ≤ literalValue negative digits ∧
          literalValue negative digits ≤ 2 ^ 63 - 1) ∧
      ∀ ms, parse (some text) = .ok ms → ∀ c ∈ text.toList, isBlank c = true ∨ c.toNat < 0x80 := by
  rw [parse_some]
  refine ⟨ofText_eq_ok_iff hlimit, raises_range_iff hlimit, raises_format_iff hlimit, ?_⟩
  intro ms hok
  obtain ⟨_, _, _, hspells, -⟩ := (ofText_eq_ok_iff hlimit ms).1 hok
  exact hspells.ascii

/-- Two minutes between blanks, in letters of both cases. -/
theorem parse_of_mixed_case :
    (digitRun " 2MiN\t").length ≤ digitLimit ∧ parse (some " 2MiN\t") = .ok 120000 := by
  have hlimit : (digitRun " 2MiN\t").length ≤ digitLimit := by decide
  refine ⟨hlimit, ((parse_iff_grammar " 2MiN\t" hlimit).1 120000).2
    ⟨false, ['2'], some .min, ?_, by decide, by decide, by decide⟩⟩
  exact ⟨by decide, List.forall_mem_singleton.2 (by decide), [' '], ['M', 'i', 'N'], ['\t'],
    List.forall_mem_singleton.2 (by decide), List.forall_mem_singleton.2 (by decide),
    by decide, by decide⟩

end Duration

end Settings
