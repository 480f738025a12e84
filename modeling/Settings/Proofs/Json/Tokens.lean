import Settings.Json.Printer
import Settings.Json.Reader
import Settings.Proofs.Number.Numeral
import Settings.Proofs.Text.Span

/-!
# Strings and numbers of JSON

Printing escapes the characters of a string one by one, and reading takes them back one by
one: what is read of a character does not depend on what comes after it.  A number is different,
as it goes on as long as the text does, so a number is read back where the text goes on with
something that belongs to no number.

## Main definitions

* `EndsNumber` — a text that no number goes on with.
* `StartsNumber` — the characters that a number begins with.

## Main results

* `escape_cases` — the three ways to write a character.
* `readString_quoted` — **a string is read back**, whatever comes after it.
* `readNumber_decimalInt`, `readNumber_realText` — so is a number that has ended.
-/

namespace Settings.Json

open Number Text

/-! ### Strings -/

theorem hexValue?_hexChar {d : Nat} (h : d < 16) : hexValue? (hexChar d) = some d := by
  have key : ∀ d : Fin 16, hexValue? (hexChar d) = some d := by decide
  exact key ⟨d, h⟩

/-- Four hexadecimal digits are as many as a number below U+10000 has. -/
theorem hexUnit?_hexPadded {n : Nat} (h : n < 0x10000) :
    ∃ a b c d, hexPadded 4 n = [a, b, c, d] ∧ hexUnit? a b c d = some n := by
  refine ⟨_, _, _, _, rfl, ?_⟩
  simp only [hexUnit?, hexValue?_hexChar (Nat.mod_lt _ (by decide : 16 > 0)), Option.bind_eq_bind,
    Option.bind_some, Option.pure_def]
  congr 1
  omega

/-- A character in a string is a letter after a backslash, or a number after `\u` if it is a
control, or itself. -/
theorem escape_cases (c : Char) :
    (∃ letter, escape c = ['\\', letter] ∧ letter ≠ 'u' ∧ 0x20 ≤ letter.toNat ∧
      unescape? letter = some c.toNat) ∨
    (escape c = '\\' :: 'u' :: hexPadded 4 c.toNat ∧ c.toNat < 0x20) ∨
    (escape c = [c] ∧ c ≠ '"' ∧ c ≠ '\\' ∧ 0x20 ≤ c.toNat) := by
  by_cases hletter : c ∈ ['"', '\\', '\n', '\r', '\t', '\x08', '\x0c']
  · refine .inl ?_
    simp only [List.mem_cons, List.not_mem_nil, or_false] at hletter
    rcases hletter with rfl | rfl | rfl | rfl | rfl | rfl | rfl
    all_goals exact ⟨_, rfl, by decide, by decide, rfl⟩
  · simp only [List.mem_cons, List.not_mem_nil, or_false, not_or] at hletter
    obtain ⟨hquote, hslash, hn, hr, ht, hb, hf⟩ := hletter
    simp only [escape, if_neg hquote, if_neg hslash, if_neg hn, if_neg hr, if_neg ht, if_neg hb,
      if_neg hf]
    by_cases hcontrol : c.toNat < 0x20
    · exact .inr (.inl ⟨if_pos hcontrol, hcontrol⟩)
    · exact .inr (.inr ⟨if_neg hcontrol, hquote, hslash, by omega⟩)

/-- A character of a string is read as itself, whatever comes after it. -/
theorem stringBody_escape (c : Char) (cs : List Char) :
    stringBody (escape c ++ cs) = (stringBody cs).map fun p => (c.toNat :: p.1, p.2) := by
  rcases escape_cases c with
    ⟨letter, heq, hu, -, hletter⟩ | ⟨heq, hcontrol⟩ | ⟨heq, hquote, hslash, hc⟩
  · rw [heq]
    show stringBody ('\\' :: letter :: cs) = _
    rw [stringBody, hletter]
    · cases stringBody cs <;> rfl
    · intro _ _ _ _ _ h
      exact absurd h hu
  · obtain ⟨w, x, y, z, hdigits, hunit⟩ :=
      hexUnit?_hexPadded (Nat.lt_trans hcontrol (by decide : 0x20 < 0x10000))
    rw [heq, hdigits]
    show stringBody ('\\' :: 'u' :: w :: x :: y :: z :: cs) = _
    rw [stringBody, hunit]
    cases stringBody cs <;> rfl
  · rw [heq]
    show stringBody (c :: cs) = _
    rw [stringBody, if_neg (Nat.not_lt.2 hc)]
    · cases stringBody cs <;> rfl
    · exact hquote
    · intro _ _ _ _ _ h
      exact absurd h hslash
    · intro _ _ h
      exact absurd h hslash

theorem stringBody_flatMap_escape (cs rest : List Char) :
    stringBody (cs.flatMap escape ++ '"' :: rest) = some (cs.map Char.toNat, rest) := by
  induction cs with
  | nil => rfl
  | cons c cs ih =>
    rw [List.flatMap_cons, List.append_assoc, stringBody_escape, ih]
    rfl

/-- No character is half of a surrogate pair. -/
theorem ofCodePoints_map_toNat (cs : List Char) : ofCodePoints (cs.map Char.toNat) = cs := by
  have hchar (c : Char) : (if c.toNat.isValidChar then Char.ofNat c.toNat else '\ufffd') = c := by
    rw [if_pos (show c.toNat.isValidChar from c.valid), Char.ofNat_toNat]
  induction cs with
  | nil => rfl
  | cons c cs ih =>
    -- two code points at a time are looked at
    cases cs with
    | nil => exact congrArg (fun d => [d]) (hchar c)
    | cons d cs =>
      have hpair : (0xD800 ≤ c.toNat && c.toNat < 0xDC00 && 0xDC00 ≤ d.toNat &&
          d.toNat < 0xE000) = false := by
        have hvalid : c.toNat < 0xD800 ∨ 0xDFFF < c.toNat ∧ c.toNat < 0x110000 := c.valid
        simp only [Bool.and_eq_false_iff, decide_eq_false_iff_not]
        omega
      rw [List.map_cons, List.map_cons, ofCodePoints, hpair, if_neg Bool.false_ne_true, hchar,
        ← List.map_cons, ih]

/-- **A string is read back**, with anything after it. -/
theorem readString_quoted (s : String) (rest : List Char) :
    ∃ cs, quoted s.toList ++ rest = '"' :: cs ∧ readString cs = some (s, rest) := by
  refine ⟨s.toList.flatMap escape ++ '"' :: rest, by simp [quoted], ?_⟩
  rw [readString, stringBody_flatMap_escape]
  simp [ofCodePoints_map_toNat]

/-! ### Numbers -/

/-- The text goes on with nothing that belongs to a number. -/
def EndsNumber (rest : List Char) : Prop :=
  ∀ c, rest.head? = some c → isAsciiDigit c = false ∧ c ≠ '.' ∧ c ≠ 'e' ∧ c ≠ 'E'

theorem readDigits_decimal (n : Nat) {rest : List Char}
    (h : ∀ c, rest.head? = some c → isAsciiDigit c = false) :
    ∃ ds, readDigits (decimal n ++ rest) = (ds, rest) ∧ ds ≠ [] ∧ ofDigits ds = n := by
  have hall := isAsciiDigit_of_mem_decimal n
  refine ⟨_, ?_, ?_, digitsValue_decimal n⟩
  · rw [readDigits, takeWhile_append_of_stop hall h, dropWhile_append_of_stop hall h]
  · exact mt List.map_eq_nil_iff.1 (decimal_ne_nil n)

theorem readFraction_of_head?_ne {cs : List Char} (h : cs.head? ≠ some '.') :
    readFraction cs = ([], cs) := by
  unfold readFraction
  split
  · exact absurd rfl h
  · rfl

theorem readExponent_of_head?_ne {cs : List Char} (he : cs.head? ≠ some 'e')
    (hE : cs.head? ≠ some 'E') : readExponent cs = (none, cs) := by
  unfold readExponent
  split
  · exact absurd rfl he
  · exact absurd rfl hE
  · rfl

theorem readMagnitude_decimal (negative : Bool) (n : Nat) {rest : List Char}
    (h : EndsNumber rest) :
    readMagnitude negative (decimal n ++ rest) =
      some (.int (if negative then -(n : Int) else n), rest) := by
  obtain ⟨ds, hread, hne, hvalue⟩ := readDigits_decimal n fun c hc => (h c hc).1
  have hfraction := readFraction_of_head?_ne fun hc => (h '.' hc).2.1 rfl
  have hexponent := readExponent_of_head?_ne (fun hc => (h 'e' hc).2.2.1 rfl)
    (fun hc => (h 'E' hc).2.2.2 rfl)
  have hempty : ds.isEmpty = false := by simpa using hne
  simp [readMagnitude, hread, hfraction, hexponent, hempty, hvalue]

theorem ne_of_isAsciiDigit {c d : Char} (hc : isAsciiDigit c = true)
    (hd : isAsciiDigit d = false) : c ≠ d := by
  rintro rfl
  exact Bool.false_ne_true (hd.symm.trans hc)

/-- The text of a numeral begins with a digit. -/
theorem exists_cons_decimal (n : Nat) :
    ∃ c cs, decimal n = c :: cs ∧ isAsciiDigit c = true := by
  obtain ⟨c, cs, hcs⟩ := List.exists_cons_of_ne_nil (decimal_ne_nil n)
  exact ⟨c, cs, hcs, isAsciiDigit_of_mem_decimal n c (by rw [hcs]; exact List.mem_cons_self)⟩

theorem readSignedExponent_decimalInt (e : Int) {rest : List Char}
    (h : ∀ c, rest.head? = some c → isAsciiDigit c = false) :
    readSignedExponent (decimalInt e ++ rest) = (e, rest) := by
  cases e with
  | ofNat n =>
    obtain ⟨ds, hread, -, hvalue⟩ := readDigits_decimal n h
    obtain ⟨c, cs, hcs, hc⟩ := exists_cons_decimal n
    have hminus : c ≠ '-' := ne_of_isAsciiDigit hc (by decide)
    have hplus : c ≠ '+' := ne_of_isAsciiDigit hc (by decide)
    show readSignedExponent (decimal n ++ rest) = (Int.ofNat n, rest)
    rw [hcs, List.cons_append] at hread ⊢
    simp [readSignedExponent, hminus, hplus, hread, hvalue]
  | negSucc n =>
    obtain ⟨ds, hread, -, hvalue⟩ := readDigits_decimal (n + 1) h
    show readSignedExponent ('-' :: (decimal (n + 1) ++ rest)) = (Int.negSucc n, rest)
    rw [readSignedExponent, hread]
    show (-(ofDigits ds : Int), rest) = (Int.negSucc n, rest)
    rw [hvalue]
    rfl

theorem readMagnitude_real (negative : Bool) (n : Nat) (e : Int) {rest : List Char}
    (h : EndsNumber rest) :
    readMagnitude negative (decimal n ++ 'e' :: (decimalInt e ++ rest)) =
      some (.real negative n e, rest) := by
  have hstop : ∀ c, ('e' :: (decimalInt e ++ rest)).head? = some c → isAsciiDigit c = false := by
    intro c hc
    obtain rfl := Option.some.inj hc
    decide
  obtain ⟨ds, hread, hne, hvalue⟩ := readDigits_decimal n hstop
  have hexponent := readSignedExponent_decimalInt e fun c hc => (h c hc).1
  have hempty : ds.isEmpty = false := by simpa using hne
  simp [readMagnitude, hread, readFraction, readExponent, hexponent, hempty, hvalue]

/-- A text that begins with a digit is read as a number without a sign. -/
theorem readNumber_of_digit {c : Char} (h : isAsciiDigit c = true) (cs : List Char) :
    readNumber (c :: cs) = readMagnitude false (c :: cs) := by
  have hminus : c ≠ '-' := ne_of_isAsciiDigit h (by decide)
  have hinfinite : c ≠ 'I' := ne_of_isAsciiDigit h (by decide)
  have hundefined : c ≠ 'N' := ne_of_isAsciiDigit h (by decide)
  simp [readNumber, hminus, hinfinite, hundefined]

theorem readNumber_of_minus {c : Char} (h : isAsciiDigit c = true) (cs : List Char) :
    readNumber ('-' :: c :: cs) = readMagnitude true (c :: cs) := by
  have hinfinite : c ≠ 'I' := ne_of_isAsciiDigit h (by decide)
  simp [readNumber, hinfinite]

/-! ### Numbers and their signs -/

/-- The characters that a number can begin with. -/
def StartsNumber (c : Char) : Prop := isAsciiDigit c = true ∨ c = '-' ∨ c = 'I' ∨ c = 'N'

instance : DecidablePred StartsNumber := fun c =>
  inferInstanceAs (Decidable (isAsciiDigit c = true ∨ c = '-' ∨ c = 'I' ∨ c = 'N'))

theorem StartsNumber.isBlank_eq_false {c : Char} (h : StartsNumber c) : isBlank c = false := by
  rw [Bool.eq_false_iff]
  intro hblank
  simp only [isBlank, Bool.or_eq_true, beq_iff_eq] at hblank
  rcases hblank with ((rfl | rfl) | rfl) | rfl
  all_goals exact absurd h (by decide)

theorem readNumber_decimalInt (n : Int) {rest : List Char} (h : EndsNumber rest) :
    readNumber (decimalInt n ++ rest) = some (.int n, rest) := by
  cases n with
  | ofNat n =>
    obtain ⟨c, cs, hcs, hc⟩ := exists_cons_decimal n
    show readNumber (decimal n ++ rest) = _
    rw [hcs, List.cons_append, readNumber_of_digit hc, ← List.cons_append, ← hcs,
      readMagnitude_decimal false n h]
    rfl
  | negSucc n =>
    obtain ⟨c, cs, hcs, hc⟩ := exists_cons_decimal (n + 1)
    show readNumber ('-' :: (decimal (n + 1) ++ rest)) = _
    rw [hcs, List.cons_append, readNumber_of_minus hc, ← List.cons_append, ← hcs,
      readMagnitude_decimal true (n + 1) h]
    rfl

theorem readNumber_realText (negative : Bool) (n : Nat) (e : Int) {rest : List Char}
    (h : EndsNumber rest) :
    readNumber (realText negative n e ++ rest) = some (.real negative n e, rest) := by
  have htext : realText negative n e ++ rest
      = (if negative then ['-'] else []) ++ (decimal n ++ 'e' :: (decimalInt e ++ rest)) := by
    simp [realText]
  obtain ⟨c, cs, hcs, hc⟩ := exists_cons_decimal n
  rw [htext, ← readMagnitude_real negative n e h, hcs, List.cons_append]
  cases negative with
  | false => exact readNumber_of_digit hc _
  | true => exact readNumber_of_minus hc _

end Settings.Json
