import Settings.Text.Blank
import Settings.Text.Cluster
import Settings.Text.Split

/-!
# Lines of terminal text

Text is prepared for a terminal by leaving out the controls that would move the cursor and
by turning tabs into spaces up to the next multiple of eight cells.  Lines that are wider
than their place are broken, between words where that is possible.

## Main definitions

* `dropControls`, `expandTabs`, `tidy` — preparing text.
* `chunks` — the words of a line, each with the blanks around it.
* `Overflow`, `wrapLine`, `wrap`, `truncate` — lines that fit a width.
* `dropSequences` — text without the sequences that set colours.
-/

namespace Settings.Terminal

open Text

/-! ### Preparing text -/

/-- The controls that text for a terminal does not keep. -/
def isDropped (c : Char) : Bool :=
  c == '\x07' || c == '\x08' || c == '\x0b' || c == '\x0c' || c == '\x0d'

/-- A text without the controls that are not kept. -/
def dropControls (cs : List Char) : List Char := cs.filter (!isDropped ·)

/-- The distance between the columns that tabs lead to. -/
def tabStop : Nat := 8

/-- The parts of a line between its tabs with spaces for the tabs, from a column on: a tab
takes one cell and goes on to the next multiple of its distance. -/
def fillTabs (column : Nat) : List (List Char) → List Char
  | [] => []
  | [part] => part
  | part :: parts =>
    let reached := column + textWidth (part ++ [' '])
    let gap := (tabStop - reached % tabStop) % tabStop
    part ++ ' ' :: List.replicate gap ' ' ++ fillTabs (reached + gap) parts

/-- A line with spaces for tabs. -/
def expandTabs (line : List Char) : List Char := fillTabs 0 (splitOn '\t' line)

/-- A text as a terminal shows it. -/
def tidy (cs : List Char) : List Char := joinWith '\n' ((lines (dropControls cs)).map expandTabs)

/-! ### Words of a line -/

/-- The first word of a line with the blanks around it, and the text after that. -/
def takeChunk (cs : List Char) : List Char × List Char :=
  let leading := cs.takeWhile isBlank
  let afterLeading := cs.dropWhile isBlank
  let word := afterLeading.takeWhile (!isBlank ·)
  let afterWord := afterLeading.dropWhile (!isBlank ·)
  (leading ++ word ++ afterWord.takeWhile isBlank, afterWord.dropWhile isBlank)

/-- The words of a line, each with the blanks around it; `fuel` bounds their number. -/
def chunksFrom : Nat → List Char → List (List Char)
  | 0, _ => []
  | fuel + 1, cs =>
    if (trim cs).isEmpty then []
    else
      let (chunk, rest) := takeChunk cs
      chunk :: chunksFrom fuel rest

/-- The words of a line, each with the blanks around it. -/
def chunks (cs : List Char) : List (List Char) := chunksFrom cs.length cs

/-! ### Breaking lines -/

/-- What happens to a word that is wider than its place. -/
inductive Overflow where
  /-- It goes on in the next line. -/
  | fold
  /-- It is cut, and three dots stand for the rest. -/
  | ellipsis
  deriving DecidableEq, Repr, Inhabited

/-- The lines that a list of words makes within a width, after the words of a line and the
cells that they take. -/
def fillLines (overflow : Overflow) (width : Nat) (line : List Char) (column : Nat) :
    List (List Char) → List (List Char)
  | [] => [line]
  | word :: words =>
    if column + textWidth (trimRight word) ≤ width then
      fillLines overflow width (line ++ word) (column + textWidth word) words
    else
      let before := if line.isEmpty then [] else [line]
      if overflow = .fold ∧ width < textWidth (trimRight word) then
        let pieces := chop width word
        let last := pieces.getLast?.getD []
        before ++ pieces.dropLast ++ fillLines overflow width last (textWidth last) words
      else before ++ fillLines overflow width word (textWidth word) words

/-- A line without the blanks at its end that make it longer than a number of characters. -/
def trimTo (width : Nat) (line : List Char) : List Char :=
  line.take (max (trimRight line).length (min line.length width))

/-- The lines that one line makes within a width. -/
def wrapLine (overflow : Overflow) (width : Nat) (line : List Char) : List (List Char) :=
  let line := expandTabs line
  let words := chunks line
  (if words.isEmpty then [line] else fillLines overflow width [] 0 words).map (trimTo width)

/-- The lines of a text within a width. -/
def wrap (overflow : Overflow) (width : Nat) (cs : List Char) : List (List Char) :=
  (lines cs).flatMap (wrapLine overflow width)

/-- The mark for what is cut off. -/
def dots : Char := '…'

/-- A line cut to a width. -/
def truncate (overflow : Overflow) (width : Nat) (line : List Char) : List Char :=
  if textWidth line ≤ width then line
  else match overflow with
    | .fold => takeCells width line
    | .ellipsis => takeCells (width - 1) line ++ [dots]

/-- A character of the parameters of a control sequence. -/
def isParameter (c : Char) : Bool :=
  c == ';' || c == '?' || (decide ('0'.toNat ≤ c.toNat) && decide (c.toNat ≤ '9'.toNat))

/-- The text after a control sequence, whose first two characters have been read. -/
def afterSequence? (cs : List Char) : Option (List Char) :=
  match cs.dropWhile isParameter with
  | c :: rest => if c.isAlpha then some rest else none
  | [] => none

theorem length_afterSequence?_lt {cs rest : List Char} (h : afterSequence? cs = some rest) :
    rest.length < cs.length := by
  unfold afterSequence? at h
  have hle := (List.dropWhile_sublist isParameter (l := cs)).length_le
  split at h
  · next c r hd =>
    rw [hd, List.length_cons] at hle
    split at h
    · cases h
      omega
    · cases h
  · cases h

/-- A text without the control sequences that set colours and the like. -/
def dropSequences (cs : List Char) : List Char :=
  match cs with
  | '\x1b' :: '[' :: rest =>
    match _h : afterSequence? rest with
    | some after => dropSequences after
    | none => '\x1b' :: dropSequences ('[' :: rest)
  | c :: rest => c :: dropSequences rest
  | [] => []
termination_by cs.length
decreasing_by
  · have := length_afterSequence?_lt ‹_›
    simp only [List.length_cons]
    omega
  · simp only [List.length_cons]
    omega
  · simp only [List.length_cons]
    omega

end Settings.Terminal
