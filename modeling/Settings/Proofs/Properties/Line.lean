import Mathlib.Data.List.TakeDrop
import Settings.Proofs.Text.Span
import Settings.Properties.Reader

/-!
# Lines that are read as they are meant

A properties file can be written line by line: a blank line, a comment, a key alone, or a key
with a value, written plainly or between single quotes.  What may stand in such a line is part
of the types, so that every line of this file reads as one statement and the next line is
left as it is.

## Main definitions

* `Key`, `PlainValue`, `QuotedValue`, `Inline` — what a line is made of.
* `escape` — a text as it is written between single quotes.
* `Line`, `Line.render` — a line and its text.
* `Line.statement?`, `Line.binding?` — what it says, and of which key.

## Main results

* `readQuoted_escape`, `unescape_escape` — quoting keeps a text.
* `readStatement_render` — **a line is read as what it says, and nothing after it.**
-/

namespace Settings.Properties

open Text

/-! ### What lines are made of -/

/-- A text without line ends. -/
structure Inline where
  /-- The characters. -/
  chars : List Char
  /-- None of them ends a line. -/
  inLine : ∀ c ∈ chars, c ≠ '\r' ∧ c ≠ '\n'

/-- A text that can stand as a key without quotes. -/
structure Key where
  /-- The key. -/
  text : String
  /-- It has a character. -/
  ne_empty : text.toList ≠ []
  /-- Nothing in it ends a key. -/
  unbroken : ∀ c ∈ text.toList, c ≠ '=' ∧ c ≠ '#' ∧ isBlank c = false
  /-- It does not open quotes. -/
  unquoted : text.toList.head? ≠ some '\''

/-- A text that can stand as a value without quotes. -/
structure PlainValue where
  /-- The value. -/
  text : String
  /-- It stays in its line. -/
  inLine : ∀ c ∈ text.toList, c ≠ '\r' ∧ c ≠ '\n'
  /-- It begins neither with a blank nor with quotes. -/
  first : ∀ c, text.toList.head? = some c → isBlank c = false ∧ c ≠ '\'' ∧ c ≠ '"'
  /-- It does not end with a blank. -/
  last : ∀ c, text.toList.getLast? = some c → isBlank c = false
  /-- Nothing in it starts a comment. -/
  uncut : ∀ c, [c, '#'] <:+: text.toList → isBlank c = false

/-- A text that can stand as a value between quotes. -/
structure QuotedValue where
  /-- The value. -/
  text : String
  /-- No line in it ends with a carriage return. -/
  no_return : '\r' ∉ text.toList

/-- A text as it is written between single quotes. -/
def escape (cs : List Char) : List Char :=
  cs.flatMap fun c => if c = '\\' ∨ c = '\'' then ['\\', c] else [c]

/-- A line of a properties file. -/
inductive Line where
  /-- Nothing but blanks. -/
  | blank (blanks : Inline) (h : ∀ c ∈ blanks.chars, isBlank c = true)
  /-- A comment. -/
  | comment (text : Inline)
  /-- A key without a value. -/
  | bare (key : Key)
  /-- A key with a value without quotes. -/
  | plain (key : Key) (value : PlainValue)
  /-- A key with a value between quotes. -/
  | quoted (key : Key) (value : QuotedValue)

/-- The text of a line, without its end. -/
def Line.render : Line → List Char
  | .blank blanks _ => blanks.chars
  | .comment text => '#' :: text.chars
  | .bare key => key.text.toList
  | .plain key value => key.text.toList ++ '=' :: value.text.toList
  | .quoted key value => key.text.toList ++ '=' :: '\'' :: (escape value.text.toList ++ ['\''])

/-- What a line says; a blank one says nothing. -/
def Line.statement? : Line → Option Statement
  | .blank _ _ => none
  | .comment _ => some .comment
  | .bare key => some (.binding key.text none)
  | .plain key value => some (.binding key.text (some value.text))
  | .quoted key value => some (.binding key.text (some value.text))

/-- The key that a line names, if any, with the value that the line gives it, if any. -/
def Line.binding? : Line → Option (String × Option String)
  | .blank _ _ => none
  | .comment _ => none
  | .bare key => some (key.text, none)
  | .plain key value => some (key.text, some value.text)
  | .quoted key value => some (key.text, some value.text)

theorem Line.pair?_statement? (l : Line) : l.statement?.bind Statement.pair? = l.binding? := by
  cases l <;> rfl

theorem Line.statement?_ne_bad (l : Line) : l.statement? ≠ some .bad := by
  cases l <;> exact fun h => nomatch h

/-! ### Quotes -/

theorem escape_cons_special {c : Char} (h : c = '\\' ∨ c = '\'') (cs : List Char) :
    escape (c :: cs) = '\\' :: c :: escape cs := by
  rw [escape, List.flatMap_cons, if_pos h]
  rfl

theorem escape_cons_plain {c : Char} (h : ¬(c = '\\' ∨ c = '\'')) (cs : List Char) :
    escape (c :: cs) = c :: escape cs := by
  rw [escape, List.flatMap_cons, if_neg h]
  rfl

theorem readQuoted_escaped (mark c : Char) (cs : List Char) :
    readQuoted mark ('\\' :: c :: cs)
      = (readQuoted mark cs).map fun (body, after) => ('\\' :: c :: body, after) := by
  rw [readQuoted]

theorem readQuoted_plain {mark c : Char} (hslash : c ≠ '\\') (hmark : c ≠ mark) (cs : List Char) :
    readQuoted mark (c :: cs)
      = (readQuoted mark cs).map fun (body, after) => (c :: body, after) := by
  rw [readQuoted, if_neg hmark] <;> simp [hslash]

/-- An escaped text between quotes ends with the closing quote. -/
theorem readQuoted_escape (cs rest : List Char) :
    readQuoted '\'' (escape cs ++ '\'' :: rest) = some (escape cs, rest) := by
  induction cs with
  | nil => rfl
  | cons c cs ih =>
    by_cases h : c = '\\' ∨ c = '\''
    · rw [escape_cons_special h, List.cons_append, List.cons_append, readQuoted_escaped, ih]
      rfl
    · obtain ⟨hslash, hmark⟩ := not_or.1 h
      rw [escape_cons_plain h, List.cons_append, readQuoted_plain hslash hmark, ih]
      rfl

theorem singleEscape?_special {c : Char} (h : c = '\\' ∨ c = '\'') : singleEscape? c = some c := by
  rcases h with rfl | rfl <;> rfl

theorem unescape_cons_plain {c : Char} (h : c ≠ '\\') (cs : List Char) :
    unescape singleEscape? (c :: cs) = c :: unescape singleEscape? cs := by
  cases cs with
  | nil => rfl
  | cons d cs => rw [unescape, if_neg h]

/-- Quoting keeps a text. -/
theorem unescape_escape (cs : List Char) : unescape singleEscape? (escape cs) = cs := by
  induction cs with
  | nil => rfl
  | cons c cs ih =>
    by_cases h : c = '\\' ∨ c = '\''
    · rw [escape_cons_special h, unescape, if_pos rfl, singleEscape?_special h]
      dsimp only
      rw [ih]
    · rw [escape_cons_plain h, unescape_cons_plain (not_or.1 h).1, ih]

/-! ### Stretches of a line -/

theorem inLine_of_mem {cs : List Char} (h : ∀ c ∈ cs, c ≠ '\r' ∧ c ≠ '\n') :
    ∀ c ∈ cs, inLine c = true := by
  intro c hc
  simpa [inLine] using (h c hc).2

theorem not_inLine_of_head? (rest : List Char) :
    ∀ c, ('\n' :: rest).head? = some c → inLine c = false := by
  rintro c ⟨⟩
  rfl

/-! ### Keys -/

/-- The character that follows a key. -/
def EndsKey (stop : Char) : Prop := stop = '=' ∨ stop = '\n'

theorem skipExport_eq_self {cs : List Char}
    (h : ∀ c rest, cs = "export".toList ++ c :: rest → isInlineBlank c = false) :
    skipExport cs = cs := by
  unfold skipExport
  split
  · next c rest => rw [h c rest rfl, if_neg Bool.false_ne_true]
  · rfl

namespace Key

variable (key : Key) {stop : Char} (rest : List Char)

theorem isKeyChar : ∀ c ∈ key.text.toList, Properties.isKeyChar c = true := by
  intro c hc
  obtain ⟨heq, hhash, hblank⟩ := key.unbroken c hc
  simp [Properties.isKeyChar, heq, hhash, hblank]

/-- No blank follows the word `export` where a key begins with it. -/
theorem skipExport_append (hstop : EndsKey stop) :
    skipExport (key.text.toList ++ stop :: rest) = key.text.toList ++ stop :: rest := by
  have hinline : isInlineBlank stop = false := by rcases hstop with rfl | rfl <;> decide
  have houtside : stop ∉ "export".toList := by rcases hstop with rfl | rfl <;> decide
  refine skipExport_eq_self fun c after hc => ?_
  rcases List.append_eq_append_iff.1 hc with ⟨gap, hword, hgap⟩ | ⟨gap, hkey, hgap⟩
  · -- the key ends within the word
    cases gap with
    | nil => rwa [← (List.cons.inj hgap).1]
    | cons d gap =>
      rw [hword, (List.cons.inj hgap).1] at houtside
      exact absurd (List.mem_append_right _ List.mem_cons_self) houtside
  · -- the word ends within the key
    cases gap with
    | nil => rwa [(List.cons.inj hgap).1]
    | cons d gap =>
      have hmem : c ∈ key.text.toList := by
        rw [hkey, (List.cons.inj hgap).1]
        exact List.mem_append_right _ List.mem_cons_self
      rw [isInlineBlank, (key.unbroken c hmem).2.2, Bool.false_and]

theorem readKey_append (hstop : EndsKey stop) :
    readKey (key.text.toList ++ stop :: rest) = .ok (some key.text.toList, stop :: rest) := by
  have hend : ∀ c, (stop :: rest).head? = some c → Properties.isKeyChar c = false := by
    rintro c ⟨⟩
    -- neither of the two can stand in a key
    rcases hstop with rfl | rfl <;> decide
  have htake := takeWhile_append_of_stop key.isKeyChar hend
  have hdrop := dropWhile_append_of_stop key.isKeyChar hend
  obtain ⟨c, cs, hkey⟩ := List.exists_cons_of_ne_nil key.ne_empty
  rw [hkey] at htake hdrop ⊢
  have hhash : c ≠ '#' := (key.unbroken c (hkey ▸ List.mem_cons_self)).2.1
  have hquote : c ≠ '\'' := by
    rintro rfl
    exact key.unquoted (by rw [hkey]; rfl)
  unfold readKey
  split
  · next heq => exact absurd (List.cons.inj heq).1 hhash
  · next heq => exact absurd (List.cons.inj heq).1 hquote
  · rw [htake, hdrop]

end Key

/-! ### Values -/

theorem skipInline_eq_self {cs : List Char}
    (h : ∀ c, cs.head? = some c → isInlineBlank c = false) : skipInline cs = cs := by
  cases cs with
  | nil => rfl
  | cons c cs => rw [skipInline, List.dropWhile_cons, h c rfl, if_neg Bool.false_ne_true]

theorem isInlineBlank_of_isBlank {c : Char} (h : isBlank c = false) : isInlineBlank c = false := by
  rw [isInlineBlank, h, Bool.false_and]

/-- A value that no comment cuts is left whole. -/
theorem cutComment_eq_self {afterBlank : Bool} {cs : List Char}
    (hfirst : afterBlank = true → cs.head? ≠ some '#')
    (h : ∀ c, [c, '#'] <:+: cs → isBlank c = false) : cutComment afterBlank cs = cs := by
  induction cs generalizing afterBlank with
  | nil => rfl
  | cons c cs ih =>
    have hcut : (c = '#' && afterBlank) = false := by
      cases afterBlank with
      | false => exact Bool.and_false _
      | true => simpa using fun hc : c = '#' => hfirst rfl (congrArg some hc)
    rw [cutComment, hcut, if_neg Bool.false_ne_true, ih]
    · -- a `#` after a blank would be a pair that the text does not have
      intro hblank hhead
      obtain ⟨rest, rfl⟩ := List.head?_eq_some_iff.1 hhead
      have hpair : [c, '#'] <:+: c :: '#' :: rest := ⟨[], rest, rfl⟩
      rw [h c hpair] at hblank
      exact Bool.noConfusion hblank
    · exact fun d hd => h d (List.infix_cons hd)

/-- A value that follows the equals sign at once. -/
theorem readValue_unspaced {cs : List Char} (h : skipInline cs = cs) :
    readValue ('=' :: cs)
      = (readAssigned false cs).map fun (value, after) => (some value, after) := by
  have hvalue : readValue ('=' :: cs)
      = (readAssigned ((skipInline cs).length < cs.length) (skipInline cs)).map
          fun (value, after) => (some value, after) := rfl
  rw [hvalue, h, decide_eq_false (Nat.lt_irrefl _)]

theorem readAssigned_of_unquoted {cs : List Char}
    (h : ∀ c, cs.head? = some c → c ≠ '\'' ∧ c ≠ '"') :
    readAssigned false cs = .ok (readPlain cs) := by
  unfold readAssigned
  split
  · rfl
  · exact absurd rfl (h _ rfl).1
  · exact absurd rfl (h _ rfl).2
  · rfl

namespace PlainValue

variable (value : PlainValue) (rest : List Char)

theorem readPlain_append :
    readPlain (value.text.toList ++ '\n' :: rest) = (value.text.toList, '\n' :: rest) := by
  have hline := inLine_of_mem value.inLine
  have hend := not_inLine_of_head? rest
  rw [readPlain, takeWhile_append_of_stop hline hend, dropWhile_append_of_stop hline hend,
    cutComment_eq_self (fun h => Bool.noConfusion h) value.uncut, trimRight_eq_self value.last]

/-- The first character after an equals sign that a plain value follows. -/
theorem first_append {c : Char} (hc : (value.text.toList ++ '\n' :: rest).head? = some c) :
    isInlineBlank c = false ∧ c ≠ '\'' ∧ c ≠ '"' := by
  rw [List.head?_append, Option.or_eq_some_iff] at hc
  rcases hc with hc | ⟨-, hc⟩
  · obtain ⟨hblank, hquotes⟩ := value.first c hc
    exact ⟨isInlineBlank_of_isBlank hblank, hquotes⟩
  · obtain rfl : '\n' = c := Option.some.inj hc
    decide

theorem readValue_append :
    readValue ('=' :: (value.text.toList ++ '\n' :: rest))
      = .ok (some value.text.toList, '\n' :: rest) := by
  rw [readValue_unspaced (skipInline_eq_self fun c hc => (value.first_append rest hc).1),
    readAssigned_of_unquoted fun c hc => (value.first_append rest hc).2, readPlain_append]
  rfl

end PlainValue

theorem readValue_quoted (cs rest : List Char) :
    readValue ('=' :: '\'' :: (escape cs ++ '\'' :: rest)) = .ok (some cs, rest) := by
  rw [readValue_unspaced rfl, readAssigned, readQuoted_escape]
  dsimp only
  rw [unescape_escape]
  rfl

/-! ### Lines -/

/-- A key that is read, its value and the end of the line make a statement. -/
theorem readStatement_key (key : Key) {stop : Char} (hstop : EndsKey stop) {tail rest : List Char}
    {value : Option (List Char)} (hvalue : readValue (stop :: tail) = .ok (value, '\n' :: rest)) :
    readStatement (key.text.toList ++ stop :: tail)
      = (.binding key.text (value.map String.ofList), rest) := by
  have hend : readEnd ('\n' :: rest) = .ok rest := rfl
  rw [readStatement, readBinding, key.skipExport_append tail hstop, key.readKey_append tail hstop]
  dsimp only
  rw [hvalue]
  dsimp only
  rw [hend]
  dsimp only
  rw [String.ofList_toList]

theorem readStatement_comment (text : Inline) (rest : List Char) :
    readStatement ('#' :: (text.chars ++ '\n' :: rest)) = (.comment, rest) := by
  have hskip : skipComment ('#' :: (text.chars ++ '\n' :: rest)) = '\n' :: rest :=
    dropWhile_append_of_stop (inLine_of_mem text.inLine) (not_inLine_of_head? rest)
  have hread : readEnd ('#' :: (text.chars ++ '\n' :: rest)) = .ok rest := by
    rw [readEnd, hskip]
    rfl
  have hkey : readKey (skipExport ('#' :: (text.chars ++ '\n' :: rest)))
      = .ok (none, '#' :: (text.chars ++ '\n' :: rest)) := rfl
  rw [readStatement, readBinding, hkey]
  dsimp only
  rw [readValue_hash]
  dsimp only
  rw [hread]

/-- **A line is read as what it says, and nothing after it.** -/
theorem Line.readStatement_render {l : Line} {st : Statement} (h : l.statement? = some st)
    (rest : List Char) : readStatement (l.render ++ '\n' :: rest) = (st, rest) := by
  cases l with
  | blank blanks hblanks => exact nomatch h
  | comment text =>
    obtain rfl := Option.some.inj h
    exact readStatement_comment text rest
  | bare key =>
    obtain rfl := Option.some.inj h
    exact readStatement_key key (Or.inr rfl) rfl
  | plain key value =>
    obtain rfl := Option.some.inj h
    rw [render, List.append_assoc, List.cons_append,
      readStatement_key key (Or.inl rfl) (value.readValue_append rest), Option.map_some,
      String.ofList_toList]
  | quoted key value =>
    obtain rfl := Option.some.inj h
    rw [render, List.append_assoc, List.cons_append, List.cons_append, List.append_assoc,
      List.singleton_append,
      readStatement_key key (Or.inl rfl) (readValue_quoted value.text.toList ('\n' :: rest)),
      Option.map_some, String.ofList_toList]

/-- A line that says nothing is skipped with its end. -/
theorem Line.dropWhile_render {l : Line} (h : l.statement? = none) (rest : List Char) :
    (l.render ++ '\n' :: rest).dropWhile isBlank = rest.dropWhile isBlank := by
  cases l with
  | blank blanks hblanks =>
    rw [render, List.dropWhile_append_of_pos hblanks]
    rfl
  | comment | bare | plain | quoted => exact nomatch h

/-- A line that says something does not begin with a blank. -/
theorem Line.first_render {l : Line} {st : Statement} (h : l.statement? = some st)
    (rest : List Char) :
    ∃ c cs, l.render ++ '\n' :: rest = c :: cs ∧ isBlank c = false := by
  have hkey : ∀ (key : Key) (tail : List Char), ∃ c cs,
      key.text.toList ++ tail = c :: cs ∧ isBlank c = false := by
    intro key tail
    obtain ⟨c, cs, hcs⟩ := List.exists_cons_of_ne_nil key.ne_empty
    exact ⟨c, cs ++ tail, by rw [hcs]; rfl, (key.unbroken c (hcs ▸ List.mem_cons_self)).2.2⟩
  cases l with
  | blank blanks hblanks => exact nomatch h
  | comment text => exact ⟨'#', _, rfl, by decide⟩
  | bare key => exact hkey key _
  | plain key value =>
    rw [render, List.append_assoc]
    exact hkey key _
  | quoted key value =>
    rw [render, List.append_assoc]
    exact hkey key _

theorem mem_of_mem_escape {c : Char} {cs : List Char} (h : c ∈ escape cs) : c = '\\' ∨ c ∈ cs := by
  obtain ⟨d, hd, hc⟩ := List.mem_flatMap.1 h
  split at hc
  · rcases List.mem_cons.1 hc with hc | hc
    · exact Or.inl hc
    · exact Or.inr (List.mem_singleton.1 hc ▸ hd)
  · exact Or.inr (List.mem_singleton.1 hc ▸ hd)

/-- No line has a carriage return. -/
theorem Line.no_return (l : Line) : '\r' ∉ l.render := by
  have hkey : ∀ key : Key, '\r' ∉ key.text.toList := by
    intro key hmem
    exact absurd (key.unbroken '\r' hmem).2.2 (by decide)
  cases l with
  | blank blanks hblanks => exact fun h => (blanks.inLine '\r' h).1 rfl
  | comment text =>
    intro h
    rcases List.mem_cons.1 h with h | h
    · exact absurd h (by decide)
    · exact (text.inLine '\r' h).1 rfl
  | bare key => exact hkey key
  | plain key value =>
    intro h
    rcases List.mem_append.1 h with h | h
    · exact hkey key h
    · rcases List.mem_cons.1 h with h | h
      · exact absurd h (by decide)
      · exact (value.inLine '\r' h).1 rfl
  | quoted key value =>
    intro h
    simp only [render, List.mem_append, List.mem_cons, List.not_mem_nil, or_false] at h
    rcases h with h | h | h | h | h
    · exact hkey key h
    · exact absurd h (by decide)
    · exact absurd h (by decide)
    · rcases mem_of_mem_escape h with h | h
      · exact absurd h (by decide)
      · exact value.no_return h
    · exact absurd h (by decide)

end Settings.Properties
