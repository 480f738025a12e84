import Settings.Expression.Literal
import Settings.Terminal.Style
import Settings.Terminal.Wrap

/-!
# Markup

Text for a terminal may hold tags in square brackets: an opening tag names a style, a
closing tag starts with a slash and names the style that it ends, or none for the one
opened last.  A tag is a bracket followed by a small letter or one of `#`, `/`, `@`, up to
the next closing bracket with no opening one between.  A backslash before a tag makes it
plain text, and a pair of backslashes there stands for one.  What stands after an equals sign
in a tag belongs to its style, or, if its name starts with `@`, names a handler of events,
with arguments that have to be a literal.

## Main definitions

* `tagBody?` — the tag at a bracket.
* `Piece`, `pieces` — a text as plain text and tags.
* `MarkupFault` — why markup cannot be shown.
* `OpenTag`, `Span` — tags that are open, and the parts of a text in their styles.
* `plainText` — the text without its tags.
* `escape` — the markup that shows a text as it is.
-/

namespace Settings.Terminal

open Text Number

/-! ### Tags -/

/-- A character that a tag may start with. -/
def startsTag (c : Char) : Bool :=
  (decide ('a'.toNat ≤ c.toNat) && decide (c.toNat ≤ 'z'.toNat)) || c == '#' || c == '/' || c == '@'

/-- A character that goes on with a tag. -/
def inTag (c : Char) : Bool := c != '[' && c != ']'

/-- The tag after an opening bracket, and the text after its closing bracket. -/
def tagBody? : List Char → Option (List Char × List Char)
  | [] => none
  | c :: cs =>
    if startsTag c then
      match cs.dropWhile inTag with
      | ']' :: rest => some (c :: cs.takeWhile inTag, rest)
      | _ => none
    else none

theorem length_tagBody?_lt {cs body rest : List Char} (h : tagBody? cs = some (body, rest)) :
    rest.length < cs.length := by
  unfold tagBody? at h
  split at h
  · cases h
  · next c cs =>
    split at h
    · split at h
      · next rest' hd =>
        cases h
        have := (List.dropWhile_sublist inTag (l := cs)).length_le
        rw [hd] at this
        simp only [List.length_cons] at this ⊢
        omega
      · cases h
    · cases h

/-! ### Pieces -/

/-- A piece of a text with markup. -/
inductive Piece where
  /-- Plain text. -/
  | text (cs : List Char)
  /-- A tag, at a position. -/
  | tag (position : Nat) (body : List Char)
  deriving DecidableEq, Repr, Inhabited

/-- A number of backslashes. -/
def backslashes (n : Nat) : List Char := List.replicate n '\\'

/-- The pieces of a text from a position on, after a number of backslashes. -/
def piecesFrom (position slashes : Nat) (cs : List Char) : List Piece :=
  match cs with
  | [] => [.text (backslashes slashes)]
  | '\\' :: rest => piecesFrom (position + 1) (slashes + 1) rest
  | '[' :: rest =>
    match _h : tagBody? rest with
    | some (body, after) =>
      let next := position + body.length + 2
      let kept := .text (backslashes (slashes / 2))
      if slashes % 2 = 1 then
        kept :: .text ('[' :: body ++ [']']) :: piecesFrom next 0 after
      else kept :: .tag position body :: piecesFrom next 0 after
    | none => .text (backslashes (slashes - 1) ++ ['[']) :: piecesFrom (position + 1) 0 rest
  | c :: rest => .text (backslashes slashes ++ [c]) :: piecesFrom (position + 1) 0 rest
termination_by cs.length
decreasing_by
  all_goals simp only [List.length_cons]
  · omega
  all_goals first
    | omega
    | exact Nat.lt_succ_of_lt (length_tagBody?_lt ‹_›)

/-- The pieces of a text. -/
def pieces (cs : List Char) : List Piece := piecesFrom 0 0 cs

/-! ### Faults -/

/-- Why markup cannot be shown. -/
inductive MarkupFault where
  /-- No tag of the name of a closing tag is open; the tag and its position. -/
  | unmatched (body : String) (position : Nat)
  /-- No tag at all is open where one is closed; the position. -/
  | nothingOpen (position : Nat)
  /-- The arguments of a handler are no literal; what stands after its equals sign. -/
  | handler (parameters : String) (arguments : String) (fault : LiteralFault)
  /-- A number in a style cannot be read. -/
  | numeral (fault : NumeralFault)
  deriving DecidableEq, Repr, Inhabited

/-- The wording of a fault. -/
def MarkupFault.message : MarkupFault → String
  | .unmatched body position =>
    s!"closing tag '[{body}]' at position {Number.numeral position} doesn't match any open tag"
  | .nothingOpen position =>
    s!"closing tag '[/]' at position {Number.numeral position} has nothing to close"
  | .handler parameters arguments (.unreadable message) =>
    s!"error parsing {quoted arguments} in {quoted parameters}; {message}"
  | .handler parameters _ fault => s!"error parsing {quoted parameters}; {fault.message}"
  | .numeral fault => fault.message
where
  /-- A text in quotes. -/
  quoted (s : String) : String := String.ofList (Text.quote s.toList)

/-! ### Open tags -/

/-- A tag that is open. -/
structure OpenTag where
  /-- The normal form of its name. -/
  name : String
  /-- What stands after its equals sign. -/
  parameters : Option (List Char)
  /-- The number of characters before it. -/
  start : Nat
  deriving DecidableEq, Repr, Inhabited

namespace OpenTag

/-- The tag names a handler of events and not a style. -/
def isHandler (t : OpenTag) : Bool := t.name.toList.head? == some '@'

/-- The text that names the style of a tag. -/
def style (t : OpenTag) : List Char :=
  match t.parameters with
  | none => t.name.toList
  | some parameters => t.name.toList ++ ' ' :: parameters

/-- The arguments in the parameters of a handler: what stands in round brackets after a name,
nothing if only a name stands there, and else all of it. -/
def arguments (parameters : List Char) : List Char :=
  match parameters.dropWhile fun c => isWordChar c || c == '.' with
  | [] => ['(', ')']
  | '(' :: rest =>
    if rest.getLast? == some ')' && !rest.contains '\n' then '(' :: rest else parameters
  | _ => parameters

/-- The arguments of a handler are a literal. -/
def checkHandler (t : OpenTag) : Except MarkupFault Unit :=
  match t.parameters with
  | none => .ok ()
  | some [] => .ok ()
  | some parameters =>
    let arguments := arguments (Text.trim parameters)
    (checkLiteral arguments).mapError
      (.handler (String.ofList parameters) (String.ofList arguments))

end OpenTag

/-! ### Spans -/

/-- A part of a text in a style. -/
structure Span where
  /-- The number of characters before it. -/
  start : Nat
  /-- The number of characters up to its end. -/
  stop : Nat
  /-- The text that names its style. -/
  style : List Char
  deriving DecidableEq, Repr, Inhabited

/-- The span of a tag up to an end. -/
def OpenTag.span (t : OpenTag) (stop : Nat) : Span := ⟨t.start, stop, t.style⟩

/-- The span has a character that is left when its text is broken into lines. -/
def Span.isSeen (s : Span) (text : List Char) : Bool :=
  ((text.take s.stop).drop s.start).any fun c => c != '\n' && !isDropped c

/-- The styles of the spans of a text can be worked out.  Spans come in the order of their
ends; the first to start counts first.  A text that is broken into lines or at its tabs
loses the spans without characters. -/
def checkSpans (text : List Char) (spans : List Span) : Except NumeralFault Unit :=
  let broken := text.contains '\n' || text.contains '\t'
  let kept := spans.filter fun s => !broken || s.isSeen text
  (kept.reverse.mergeSort fun s t => decide (s.start ≤ t.start)).forM fun s => checkStyle s.style

/-! ### Plain text -/

/-- The name of a tag: what stands before an equals sign. -/
def tagName (body : List Char) : List Char := body.takeWhile (· != '=')

/-- What stands after the equals sign of a tag. -/
def tagParameters? (body : List Char) : Option (List Char) :=
  match body.dropWhile (· != '=') with
  | _ :: parameters => some parameters
  | [] => none

/-- The tag that is closed by a closing tag with a name, the one opened last first. -/
def closedTag (opened : List OpenTag) (position : Nat) (name body : List Char) :
    Except MarkupFault OpenTag :=
  if name.isEmpty then
    match opened with
    | [] => .error (.nothingOpen position)
    | t :: _ => .ok t
  else do
    let style ← (styleName name).mapError .numeral
    match opened.find? (·.name == style) with
    | some t => return t
    | none => throw (.unmatched (String.ofList body) position)

/-- The open tags after one more tag, the last first, and the span that ends there.  `start` is
the number of characters before the tag. -/
def afterTag (start : Nat) (opened : List OpenTag) (position : Nat) (body : List Char) :
    Except MarkupFault (List OpenTag × List Span) :=
  match tagName body with
  | '/' :: name => do
    let t ← closedTag opened position (Text.trim name) body
    if t.isHandler then
      t.checkHandler
      return (opened.erase t, [])
    else return (opened.erase t, [t.span start])
  | name => do
    let style ← (styleName name).mapError .numeral
    return (⟨style, tagParameters? body, start⟩ :: opened, [])

/-- The text of pieces without the tags and its spans, after `start` characters.  What is open
at the end is closed there. -/
def textOf (start : Nat) (opened : List OpenTag) :
    List Piece → Except MarkupFault (List Char × List Span)
  | [] => .ok ([], opened.map (·.span start))
  | .text cs :: rest => do
    let (text, spans) ← textOf (start + cs.length) opened rest
    return (cs ++ text, spans)
  | .tag position body :: rest => do
    let (opened, ended) ← afterTag start opened position body
    let (text, spans) ← textOf start opened rest
    return (text, ended ++ spans)

/-- A text with markup without its tags.  A text without brackets is plain as it is. -/
def plainText (cs : List Char) : Except MarkupFault (List Char) :=
  if cs.contains '[' then do
    let (text, spans) ← textOf 0 [] (pieces cs)
    (checkSpans text spans).mapError .numeral
    return text
  else .ok cs

/-! ### Escaping -/

/-- A text before its last backslashes, and their number. -/
def endsInOneBackslash (cs : List Char) : Bool :=
  match cs.reverse with
  | ['\\'] => true
  | '\\' :: c :: _ => c != '\\'
  | _ => false

/-- The text with a backslash before each tag and the backslashes there doubled, after a
number of backslashes. -/
def escapeFrom (slashes : Nat) (cs : List Char) : List Char :=
  match cs with
  | [] => backslashes slashes
  | '\\' :: rest => escapeFrom (slashes + 1) rest
  | '[' :: rest =>
    match _h : tagBody? rest with
    | some (body, after) =>
      backslashes (2 * slashes + 1) ++ '[' :: body ++ ']' :: escapeFrom 0 after
    | none => backslashes slashes ++ '[' :: escapeFrom 0 rest
  | c :: rest => backslashes slashes ++ c :: escapeFrom 0 rest
termination_by cs.length
decreasing_by
  all_goals simp only [List.length_cons]
  · omega
  all_goals first
    | omega
    | exact Nat.lt_succ_of_lt (length_tagBody?_lt ‹_›)

/-- The text as markup for itself: tags are escaped, and a single backslash at the end is
doubled, so that it does not escape what comes after it. -/
def escape (cs : List Char) : List Char :=
  let escaped := escapeFrom 0 cs
  if endsInOneBackslash escaped then escaped ++ ['\\'] else escaped

end Settings.Terminal
