import Settings.Text.Blank

/-!
# Statements of a properties file

A properties file is a sequence of statements, each from its first character that is
not blank to the end of a line.  A statement binds a key to a value, names a key without
a value, or is a comment.  A key may follow the word `export` and may be quoted; a value
may be quoted by single or double quotes and then run over several lines.  A statement
that is none of this is bad, and ends with the line in which that shows.

## Main definitions

* `readKey`, `readValue`, `readEnd` — the parts of a statement.  Each part answers what it
  found and the text after it, or the text at which it gave up.
* `Statement`, `readStatement` — a whole statement and the text after it.
* `length_readStatement_lt` — every statement takes at least one character.
-/

namespace Settings.Properties

open Text

/-- A part of a statement with the text after it, or the text where reading gave up. -/
abbrev Part (α : Type) := Except (List Char) (α × List Char)

/-- What a statement says. -/
inductive Statement where
  /-- A key, with a value or without one. -/
  | binding (key : String) (value : Option String)
  /-- A comment. -/
  | comment
  /-- None of these. -/
  | bad
  deriving DecidableEq, Repr, Inhabited

/-! ### Lines -/

/-- The character does not end a line. -/
def inLine (c : Char) : Bool := c != '\n'

/-- The text after the blanks that do not end the line. -/
def skipInline (cs : List Char) : List Char := cs.dropWhile isInlineBlank

/-- The text from the next line on. -/
def skipLine (cs : List Char) : List Char := (cs.dropWhile inLine).drop 1

/-! ### Keys -/

/-- The text after the word `export` and the blanks that follow it, if both are there. -/
def skipExport (cs : List Char) : List Char :=
  match cs with
  | 'e' :: 'x' :: 'p' :: 'o' :: 'r' :: 't' :: c :: rest =>
    if isInlineBlank c then skipInline rest else cs
  | cs => cs

/-- A character of a key without quotes. -/
def isKeyChar (c : Char) : Bool := !(c == '=' || c == '#' || isBlank c)

/-- A character of a key between quotes. -/
def isKeyQuoted (c : Char) : Bool := c != '\''

/-- The key of a statement; a comment has none. -/
def readKey (cs : List Char) : Part (Option (List Char)) :=
  match cs with
  | '#' :: _ => .ok (none, cs)
  | '\'' :: rest =>
    match rest.takeWhile isKeyQuoted, rest.dropWhile isKeyQuoted with
    | c :: key, _ :: after => .ok (some (c :: key), after)
    | _, _ => .error cs
  | cs =>
    match cs.takeWhile isKeyChar with
    | [] => .error cs
    | c :: key => .ok (some (c :: key), cs.dropWhile isKeyChar)

/-! ### Values -/

/-- The text between quotes, with its backslashes, and the text after the closing quote.
A backslash keeps the character after it from closing the quotes. -/
def readQuoted (mark : Char) : List Char → Option (List Char × List Char)
  | [] => none
  | ['\\'] => none
  | '\\' :: c :: rest => (readQuoted mark rest).map fun (body, after) => ('\\' :: c :: body, after)
  | c :: rest =>
    if c = mark then some ([], rest)
    else (readQuoted mark rest).map fun (body, after) => (c :: body, after)

/-- The character that one after a backslash stands for between single quotes. -/
def singleEscape? (c : Char) : Option Char :=
  match c with
  | '\\' | '\'' => some c
  | _ => none

/-- The character that one after a backslash stands for between double quotes. -/
def doubleEscape? (c : Char) : Option Char :=
  match c with
  | '\\' | '\'' | '"' => some c
  | 'a' => some '\x07'
  | 'b' => some '\x08'
  | 'f' => some '\x0c'
  | 'n' => some '\n'
  | 'r' => some '\r'
  | 't' => some '\t'
  | 'v' => some '\x0b'
  | _ => none

/-- A quoted text without its escapes; a backslash that escapes nothing stays. -/
def unescape (escape? : Char → Option Char) : List Char → List Char
  | [] => []
  | [c] => [c]
  | c :: d :: rest =>
    if c = '\\' then
      match escape? d with
      | some e => e :: unescape escape? rest
      | none => c :: unescape escape? (d :: rest)
    else c :: unescape escape? (d :: rest)

/-- A value without quotes up to the first `#` after a blank; `afterBlank` says whether a
blank precedes. -/
def cutComment (afterBlank : Bool) : List Char → List Char
  | [] => []
  | c :: cs => if c = '#' && afterBlank then [] else c :: cutComment (isBlank c) cs

/-- The value after the equals sign and the blanks that follow it. -/
def readPlain (cs : List Char) : List Char × List Char :=
  (trimRight (cutComment false (cs.takeWhile inLine)), cs.dropWhile inLine)

/-- The value after the equals sign; `spaced` says whether blanks stand between. -/
def readAssigned (spaced : Bool) (cs : List Char) : Part (List Char) :=
  match cs with
  | '#' :: _ => if spaced then .ok ([], cs) else .ok (readPlain cs)
  | '\'' :: rest =>
    match readQuoted '\'' rest with
    | some (body, after) => .ok (unescape singleEscape? body, after)
    | none => .error cs
  | '"' :: rest =>
    match readQuoted '"' rest with
    | some (body, after) => .ok (unescape doubleEscape? body, after)
    | none => .error cs
  | cs => .ok (readPlain cs)

/-- The value of a statement after its key, if it has one. -/
def readValue (cs : List Char) : Part (Option (List Char)) :=
  match skipInline cs with
  | '=' :: rest =>
    let after := skipInline rest
    (readAssigned (after.length < rest.length) after).map fun (value, after) => (some value, after)
  | rest => .ok (none, rest)

/-! ### The end of a statement -/

/-- The text after a comment, if there is one. -/
def skipComment (cs : List Char) : List Char :=
  match skipInline cs with
  | '#' :: rest => rest.dropWhile inLine
  | _ => cs

/-- The text after the end of the line of a statement. -/
def readEnd (cs : List Char) : Except (List Char) (List Char) :=
  let cs := skipComment cs
  match skipInline cs with
  | [] => .ok []
  | '\n' :: rest => .ok rest
  | _ => .error cs

/-! ### Statements -/

/-- A statement, from its first character on. -/
def readBinding (cs : List Char) : Part Statement :=
  match readKey (skipExport cs) with
  | .error rest => .error rest
  | .ok (key, rest) =>
    match readValue rest with
    | .error rest => .error rest
    | .ok (value, rest) =>
      match readEnd rest with
      | .error rest => .error rest
      | .ok rest =>
        .ok (match key with
          | some key => .binding (String.ofList key) (value.map String.ofList)
          | none => .comment, rest)

/-- A statement, from its first character on, and the text after it. -/
def readStatement (cs : List Char) : Statement × List Char :=
  match readBinding cs with
  | .ok found => found
  | .error rest => (.bad, skipLine rest)

/-! ### Every statement takes a character -/

theorem length_dropWhile_le (p : Char → Bool) (cs : List Char) :
    (cs.dropWhile p).length ≤ cs.length :=
  (List.dropWhile_sublist p).length_le

theorem length_skipInline_le (cs : List Char) : (skipInline cs).length ≤ cs.length :=
  length_dropWhile_le _ cs

theorem length_skipLine_le (cs : List Char) : (skipLine cs).length ≤ cs.length - 1 := by
  have := length_dropWhile_le inLine cs
  simp only [skipLine, List.length_drop]
  omega

theorem length_skipExport_le (cs : List Char) : (skipExport cs).length ≤ cs.length := by
  unfold skipExport
  split
  · next c rest =>
    split
    · have := length_skipInline_le rest
      simp only [List.length_cons]
      omega
    · exact Nat.le_refl _
  · exact Nat.le_refl _

theorem length_dropWhile_lt {p : Char → Bool} {cs key : List Char} {c : Char}
    (h : cs.takeWhile p = c :: key) : (cs.dropWhile p).length < cs.length := by
  have h1 : (cs.takeWhile p ++ cs.dropWhile p).length = cs.length := by
    rw [List.takeWhile_append_dropWhile]
  rw [h, List.length_append, List.length_cons] at h1
  omega

/-- Reading a key takes a character, or stands before a comment. -/
theorem readKey_ok {cs rest : List Char} {key : Option (List Char)}
    (h : readKey cs = .ok (key, rest)) :
    rest.length < cs.length ∨ (rest = cs ∧ ∃ t, cs = '#' :: t) := by
  unfold readKey at h
  split at h
  · next t =>
    cases h
    exact .inr ⟨rfl, t, rfl⟩
  · next t =>
    split at h
    · next hd =>
      cases h
      have := length_dropWhile_le isKeyQuoted t
      rw [hd] at this
      simp only [List.length_cons] at this ⊢
      omega
    · cases h
  · split at h
    · cases h
    · next hk =>
      cases h
      exact .inl (length_dropWhile_lt hk)

theorem readKey_error {cs rest : List Char} (h : readKey cs = .error rest) : rest = cs := by
  unfold readKey at h
  split at h
  · cases h
  · split at h
    · cases h
    · cases h; rfl
  · split at h
    · cases h; rfl
    · cases h

theorem length_readQuoted_lt {mark : Char} {cs body after : List Char}
    (h : readQuoted mark cs = some (body, after)) : after.length < cs.length := by
  fun_induction readQuoted mark cs generalizing body after with
  | case1 => cases h
  | case2 => cases h
  | case3 c rest ih =>
    obtain ⟨⟨b, a⟩, hb, he⟩ := Option.map_eq_some_iff.1 h
    have := ih hb
    cases he
    simp only [List.length_cons]
    omega
  | case4 =>
    cases h
    simp
  | case5 c rest _ _ _ ih =>
    obtain ⟨⟨b, a⟩, hb, he⟩ := Option.map_eq_some_iff.1 h
    have := ih hb
    cases he
    simp only [List.length_cons]
    omega

/-- The text that a part of a statement leaves, whether it was read or not. -/
def Part.rest {α : Type} : Part α → List Char
  | .ok (_, rest) => rest
  | .error rest => rest

theorem length_readAssigned_le (spaced : Bool) (cs : List Char) :
    (readAssigned spaced cs).rest.length ≤ cs.length := by
  unfold readAssigned
  split
  · split
    · exact Nat.le_refl _
    · exact length_dropWhile_le _ _
  · split
    · next h => exact Nat.le_of_lt (Nat.lt_succ_of_lt (length_readQuoted_lt h))
    · exact Nat.le_refl _
  · split
    · next h => exact Nat.le_of_lt (Nat.lt_succ_of_lt (length_readQuoted_lt h))
    · exact Nat.le_refl _
  · exact length_dropWhile_le _ _

theorem Part.rest_map {α β : Type} (f : α → β) (x : Part α) :
    Part.rest (Except.map (fun (p : α × List Char) => (f p.1, p.2)) x) = x.rest := by
  cases x <;> rfl

theorem length_readValue_le (cs : List Char) : (readValue cs).rest.length ≤ cs.length := by
  have hs := length_skipInline_le cs
  unfold readValue
  split
  · next rest heq =>
    have h1 := length_skipInline_le rest
    have h2 := length_readAssigned_le ((skipInline rest).length < rest.length) (skipInline rest)
    rw [heq] at hs
    simp only [List.length_cons] at hs
    have h3 := Part.rest_map some
      (readAssigned ((skipInline rest).length < rest.length) (skipInline rest))
    simp only [h3]
    omega
  · exact hs

theorem readValue_hash (cs : List Char) : readValue ('#' :: cs) = .ok (none, '#' :: cs) := rfl

theorem length_skipComment_le (cs : List Char) : (skipComment cs).length ≤ cs.length := by
  have hs := length_skipInline_le cs
  unfold skipComment
  split
  · next rest heq =>
    have := length_dropWhile_le inLine rest
    rw [heq] at hs
    simp only [List.length_cons] at hs
    omega
  · exact Nat.le_refl _

theorem length_skipComment_hash_lt (cs : List Char) :
    (skipComment ('#' :: cs)).length < ('#' :: cs).length := by
  have h : skipComment ('#' :: cs) = cs.dropWhile inLine := rfl
  rw [h]
  exact Nat.lt_succ_of_le (length_dropWhile_le _ _)

theorem length_readEnd_le {cs rest : List Char} (h : readEnd cs = .ok rest) :
    rest.length ≤ (skipComment cs).length := by
  have hs := length_skipInline_le (skipComment cs)
  unfold readEnd at h
  simp only at h
  split at h
  · cases h
    exact Nat.zero_le _
  · next r heq =>
    cases h
    rw [heq] at hs
    simp only [List.length_cons] at hs
    omega
  · cases h

theorem length_readEnd_error_le {cs rest : List Char} (h : readEnd cs = .error rest) :
    rest.length ≤ cs.length := by
  unfold readEnd at h
  simp only at h
  split at h
  · cases h
  · cases h
  · cases h
    exact length_skipComment_le cs

/-- A statement that is read takes at least one character. -/
theorem length_readBinding_lt {cs rest : List Char} {st : Statement}
    (h : readBinding cs = .ok (st, rest)) : rest.length < cs.length := by
  have he := length_skipExport_le cs
  unfold readBinding at h
  split at h
  · cases h
  · next key r1 hk =>
    split at h
    · cases h
    · next value r2 hv =>
      split at h
      · cases h
      · next r3 hr =>
        simp only [Except.ok.injEq, Prod.mk.injEq] at h
        obtain ⟨_, rfl⟩ := h
        have h3 := length_readEnd_le hr
        have h4 := length_skipComment_le r2
        rcases readKey_ok hk with h1 | ⟨rfl, t, ht⟩
        · have h2 := length_readValue_le r1
          rw [hv] at h2
          simp only [Part.rest] at h2
          omega
        · rw [ht, readValue_hash] at hv
          cases hv
          have h5 := length_skipComment_hash_lt t
          rw [ht] at he
          omega

/-- A statement that is not read gives up within its own text. -/
theorem length_readBinding_error_le {cs rest : List Char} (h : readBinding cs = .error rest) :
    rest.length ≤ cs.length := by
  have he := length_skipExport_le cs
  unfold readBinding at h
  split at h
  · next r hk =>
    cases h
    rw [readKey_error hk]
    exact he
  · next key r1 hk =>
    have h1 : r1.length ≤ (skipExport cs).length := by
      rcases readKey_ok hk with h | ⟨h, _⟩
      · omega
      · exact Nat.le_of_eq (congrArg List.length h)
    have h2 := length_readValue_le r1
    split at h
    · next r hv =>
      cases h
      rw [hv] at h2
      simp only [Part.rest] at h2
      omega
    · next value r2 hv =>
      rw [hv] at h2
      simp only [Part.rest] at h2
      split at h
      · next r hr =>
        cases h
        have := length_readEnd_error_le hr
        omega
      · cases h

/-- Every statement takes at least one character. -/
theorem length_readStatement_lt {cs : List Char} (h : cs ≠ []) :
    (readStatement cs).2.length < cs.length := by
  have hpos := List.length_pos_iff.2 h
  unfold readStatement
  split
  · next found hf =>
    obtain ⟨st, rest⟩ := found
    exact length_readBinding_lt hf
  · next rest hr =>
    have h1 := length_readBinding_error_le hr
    have h2 := length_skipLine_le rest
    simp only
    omega

end Settings.Properties
