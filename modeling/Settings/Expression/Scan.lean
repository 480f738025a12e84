import Settings.Expression.Number
import Settings.Number.Integer

/-!
# Reading the tokens of an expression

Blanks, comments and, within brackets, line ends part tokens.  Reading goes on to the end of
the text or to what cannot be read.

## Main definitions

* `Tokens` — the tokens of a text, and the brackets that it leaves open.
* `scan` — the tokens of an expression.
-/

namespace Settings.Expression

open Number Text

/-! ### Names -/

/-- A code point as messages show it. -/
def codePoint (c : Char) : String :=
  let digits := (hexPadded 8 c.toNat).dropWhile (· == '0')
  let code := List.replicate (4 - digits.length) '0' ++ digits
  String.ofList ('U' :: '+' :: code.map Char.toUpper)

/-- The wording about a character that belongs nowhere. -/
def invalidCharacter (c : Char) : String :=
  if isPrintable c then s!"invalid character '{c}' ({codePoint c})"
  else s!"invalid non-printable character {codePoint c}"

/-- The first character of a word that keeps it from being a name. -/
def offender? : List Char → Option Char
  | [] => none
  | c :: cs => if startsName c then cs.find? (!continuesName ·) else some c

/-- The token of a word. -/
def wordToken (word : String) : Token :=
  if keywords.contains word then .keyword word else .name word

/-! ### Quoted texts -/

/-- The text up to its closing quotes, the text after these, and the lines that it ends;
none if it is not closed, with the lines up to where that shows. -/
def readBody (mark : Char) (triple : Bool) (body : List Char) (ended : Nat) :
    List Char → Option (List Char × List Char) × Nat
  | [] => (none, ended)
  | '\\' :: c :: cs => readBody mark triple (c :: '\\' :: body) (ended + count c) cs
  | c :: cs =>
    if c = mark && !triple then (some (body.reverse, cs), ended)
    else if c = '\n' && !triple then (none, ended)
    else if c = mark then
      match cs with
      | a :: b :: rest =>
        if a = mark && b = mark then (some (body.reverse, rest), ended)
        else readBody mark triple (c :: body) ended (a :: b :: rest)
      | cs => readBody mark triple (c :: body) ended cs
    else readBody mark triple (c :: body) (ended + count c) cs
where
  /-- The lines that a character ends. -/
  count (c : Char) : Nat := if c = '\n' then 1 else 0

/-- A quoted text after the marks before it: its form, the text after it, and the lines that
it ends. -/
def readText (marks : String) (mark : Char) (line : Nat) (cs : List Char) :
    Except String ((TextForm × Nat) × List Char) :=
  let has (c : Char) : Bool := marks.toList.contains c
  let form (body : List Char) : TextForm := ⟨has 'r', has 'b', has 'f', body⟩
  let (triple, inner) := match cs with
    | a :: b :: rest => if a = mark && b = mark then (true, rest) else (false, cs)
    | cs => (false, cs)
  match readBody mark triple [] 0 inner with
  | (some (body, rest), ended) => .ok ((form body, ended), rest)
  | (none, ended) =>
    let kind := if triple then "triple-quoted string" else "string"
    .error s!"unterminated {kind} literal (detected at line {numeral (line + ended)})"

/-! ### Signs -/

/-- A bracket that is open, and the line that it stands in. -/
abbrev OpenBracket := Char × Nat

/-- The brackets that are open after a closing one. -/
def close (c : Char) (line : Nat) : List OpenBracket → Except String (List OpenBracket)
  | [] => .error s!"unmatched '{c}'"
  | (o, start) :: opened =>
    if closing o = c then .ok opened
    else
      let place := if start = line then "" else s!" on line {numeral start}"
      .error s!"closing parenthesis '{c}' does not match opening parenthesis '{o}'{place}"

/-- The sign at the start of a text. -/
def signAt (cs : List Char) : List Char :=
  ((operators.map String.toList).find? (·.isPrefixOf cs)).getD (cs.take 1)

/-! ### Starts of lines -/

/-- How far to the right a line starts: with tabs up to the next multiple of eight, and with
tabs of one column. -/
structure Indent where
  /-- The column by wide tabs. -/
  wide : Nat
  /-- The column by narrow tabs. -/
  narrow : Nat
  deriving DecidableEq, Repr, Inhabited

/-- The indent after a blank. -/
def Indent.after (i : Indent) (c : Char) : Indent :=
  if c = ' ' then ⟨i.wide + 1, i.narrow + 1⟩
  else if c = '\t' then ⟨(i.wide / 8 + 1) * 8, i.narrow + 1⟩
  else ⟨0, 0⟩

/-- What is wrong with a text that ends after a backslash and a line end. -/
def endMessage : String := "unexpected EOF while parsing"

/-- What is wrong with a backslash before anything but a line end. -/
def backslashMessage : String := "unexpected character after line continuation character"

/-- The line that goes on after a backslash, if it does. -/
def continueLine : List Char → Except String (List Char)
  | '\n' :: c :: cs => .ok (c :: cs)
  | ['\n'] => .error endMessage
  | _ => .error backslashMessage

/-- The indent of a line, the number of the line where it ends, and the text after it.  If the
line goes on after a backslash, the column of the first one counts, unless it is zero. -/
def readIndent : Nat → Nat → Indent → Nat → List Char → Except String (Indent × Nat × List Char)
  | 0, line, i, _, cs => .ok (i, line, cs)
  | fuel + 1, line, i, column, cs =>
    match cs with
    | '\\' :: rest => do
      let rest ← continueLine rest
      readIndent fuel (line + 1) i (if column = 0 then i.wide else column) rest
    | c :: rest =>
      if c = ' ' || c = '\t' || c = '\x0c' then readIndent fuel line (i.after c) column rest
      else .ok (if column = 0 then i else ⟨column, column⟩, line, cs)
    | [] => .ok (if column = 0 then i else ⟨column, column⟩, line, [])

/-- The first line with more than blanks and a comment: its indent, its number and its text. -/
def startLine : Nat → Nat → List Char → Except String (Indent × Nat × List Char)
  | 0, line, cs => .ok (⟨0, 0⟩, line, cs)
  | fuel + 1, line, cs => do
    let (i, line, cs) ← readIndent fuel line ⟨0, 0⟩ 0 cs
    match cs with
    | '\n' :: rest => startLine fuel (line + 1) rest
    | '#' :: rest =>
      match rest.dropWhile (· != '\n') with
      | _ :: rest => startLine fuel (line + 1) rest
      | [] => return (⟨0, 0⟩, line, [])
    | cs => return (i, line, cs)

/-- The indents of the lines that a line stands in, the nearest first, after its own indent;
and whether it is further to the right.  It is not in order if tabs of another width would
change that, or if it goes back to a column where no line stands. -/
def nest (i : Indent) (outer : List Indent) : Option (Bool × List Indent) :=
  match outer.dropWhile fun o => decide (i.wide < o.wide) with
  | [] => none
  | o :: os =>
    if i.wide = o.wide then if i.narrow = o.narrow then some (false, o :: os) else none
    else if os.length + 1 = outer.length ∧ o.narrow < i.narrow then some (true, i :: o :: os)
    else none

/-! ### All tokens -/

/-- The tokens of a text. -/
structure Tokens where
  /-- The tokens. -/
  lexemes : List Lexeme
  /-- The brackets that are open at the end. -/
  opened : List OpenBracket
  deriving Repr, Inhabited

/-- Tokens after another one. -/
def Tokens.cons (l : Lexeme) (ts : Tokens) : Tokens := { ts with lexemes := l :: ts.lexemes }

/-- A place in a text. -/
structure Position where
  /-- The brackets that are open. -/
  opened : List OpenBracket
  /-- The indents of the lines around. -/
  indents : List Indent
  /-- The line. -/
  line : Nat
  deriving Repr, Inhabited

namespace Position

/-- A token at a place. -/
def lexeme (p : Position) (t : Token) (rest : List Char) : Lexeme :=
  ⟨t, p.opened.length, p.line, !rest.isEmpty⟩

/-- Nothing can be read any more. -/
def stop (p : Position) (message : String) : Tokens := ⟨[p.lexeme (.ended message) []], p.opened⟩

/-- Something that is no token. -/
def fail (p : Position) (message : String) : Tokens := ⟨[p.lexeme (.broken message) []], p.opened⟩

/-- The end of the text, after a message unless a bracket is open. -/
def finish (p : Position) (message : Option String) : Tokens :=
  match p.opened, message with
  | (o, _) :: _, _ => p.stop s!"'{o}' was never closed"
  | [], some message => p.stop message
  | [], none => ⟨[], []⟩

/-- What is wrong with a line that goes on after a backslash. -/
def stopLine (p : Position) (message : String) : Tokens :=
  if message = endMessage then p.finish (some message) else p.stop message

end Position

/-- The tokens of a text from a place on. -/
def scanFrom : Nat → Position → List Char → Tokens
  | 0, p, _ => p.finish none
  | fuel + 1, p, cs =>
    let token (t : Token) (rest : List Char) : Tokens :=
      (scanFrom fuel p rest).cons (p.lexeme t rest)
    let text (marks : String) (mark : Char) (rest : List Char) : Tokens :=
      match readText marks mark p.line rest with
      | .error message => p.fail message
      | .ok ((form, ended), rest) =>
        (scanFrom fuel { p with line := p.line + ended } rest).cons
          { p.lexeme (.text form) rest with isFollowed := true }
    match cs with
    | [] => p.finish none
    | c :: rest =>
      if c = ' ' || c = '\t' || c = '\x0c' then scanFrom fuel p rest
      else if c = '#' then scanFrom fuel p (rest.dropWhile (· != '\n'))
      else if c = '\n' then
        if p.opened.isEmpty then (scanLine fuel (p.line + 1) p rest).cons (p.lexeme .lineEnd rest)
        else scanFrom fuel { p with line := p.line + 1 } rest
      else if c = '\\' then
        match continueLine rest with
        | .ok rest => scanFrom fuel { p with line := p.line + 1 } rest
        | .error message => p.stopLine message
      else if isAsciiDigit c || (c == '.' && rest.head?.any isAsciiDigit) then
        match readNumber cs with
        | .error message => p.fail message
        | .ok (form, rest) => token (.number form) rest
      else if c = '"' || c = '\'' then text "" c rest
      else if mayContinueName c then
        let word := cs.takeWhile mayContinueName
        let marks := String.ofList (word.map Char.toLower)
        match cs.dropWhile mayContinueName, textMarks.contains marks with
        | '"' :: rest, true => text marks '"' rest
        | '\'' :: rest, true => text marks '\'' rest
        | rest, _ =>
          match offender? word with
          | some c => p.fail (invalidCharacter c)
          | none => token (wordToken (String.ofList word)) rest
      else if c = '(' || c = '[' || c = '{' then
        if tooDeep ≤ p.opened.length then p.fail "too many nested parentheses"
        else
          let p := { p with opened := (c, p.line) :: p.opened }
          (scanFrom fuel p rest).cons (p.lexeme (.sign c.toString) rest)
      else if c = ')' || c = ']' || c = '}' then
        match close c p.line p.opened with
        | .error message => p.fail message
        | .ok opened =>
          let p := { p with opened := opened }
          (scanFrom fuel p rest).cons (p.lexeme (.sign c.toString) rest)
      else if !isPrintable c then p.fail (invalidCharacter c)
      else
        let sign := signAt cs
        let rest := cs.drop sign.length
        let l := p.lexeme (.sign (String.ofList sign)) rest
        (scanFrom fuel p rest).cons
          { l with isFollowed := l.isFollowed || decide (longestSign ≤ sign.length) }
where
  /-- The tokens from the start of a line on. -/
  scanLine (fuel : Nat) (line : Nat) (p : Position) (cs : List Char) : Tokens :=
    match startLine fuel line cs with
    | .error message => p.stopLine message
    | .ok (i, line, cs) =>
      let p := { p with line := line }
      match cs, nest i p.indents with
      | [], _ => p.finish none
      | _, none => p.stop "inconsistent use of tabs and spaces in indentation"
      | _, some (further, indents) =>
        let p := { p with indents := indents }
        let ts := scanFrom fuel p cs
        if further then ts.cons (p.lexeme .indent cs) else ts

/-- A text with every line end as a line feed. -/
def unifyLines : List Char → List Char
  | [] => []
  | '\r' :: '\n' :: cs => '\n' :: unifyLines cs
  | '\r' :: cs => '\n' :: unifyLines cs
  | c :: cs => c :: unifyLines cs

/-- The tokens of an expression. -/
def scan (text : List Char) : Tokens :=
  let p : Position := ⟨[], [⟨0, 0⟩], 1⟩
  if text.contains '\x00' then p.fail "source code string cannot contain null bytes"
  else
    let cs := unifyLines text
    scanFrom.scanLine (2 * cs.length + 2) 1 p cs

end Settings.Expression
