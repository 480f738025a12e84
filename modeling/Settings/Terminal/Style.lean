import Settings.Terminal.Colour
import Settings.Text.Lower

/-!
# Names of styles

A style is named by words: attributes, a colour, `on` with a background colour, `link`
with an address.  Many words name the same attribute and the order of words is free, so
names are compared in a normal form: attributes in a fixed order under their long names,
then the colours and the link.  A text that names no style is compared in lower case.

## Main definitions

* `Style`, `Style.addWords`, `Style.text` — styles, from and to words.
* `styleName` — the normal form of a name.
* `checkStyle` — whether the numbers in a style can be read.
-/

namespace Settings.Terminal

open Text Number

/-- The long names of the attributes, in the order in which they are written. -/
def attributeNames : List String :=
  ["bold", "dim", "italic", "underline", "blink", "blink2", "reverse", "conceal", "strike",
   "underline2", "frame", "encircle", "overline"]

/-- The short names of attributes. -/
def attributeShorthands : List (String × String) :=
  [("b", "bold"), ("d", "dim"), ("i", "italic"), ("u", "underline"), ("r", "reverse"),
   ("c", "conceal"), ("s", "strike"), ("uu", "underline2"), ("o", "overline")]

/-- The long name of the attribute that a word names. -/
def attribute? (word : String) : Option String :=
  if attributeNames.contains word then some word else attributeShorthands.lookup word

/-- A style. -/
structure Style where
  /-- The attributes that are switched on or off, the latest first. -/
  attributes : List (String × Bool)
  /-- The colour. -/
  colour : Option String
  /-- The background colour. -/
  background : Option String
  /-- The address that the text links to. -/
  link : Option String
  deriving DecidableEq, Repr, Inhabited

namespace Style

/-- The style without attributes and colours. -/
def plain : Style := ⟨[], none, none, none⟩

/-- A word in lower case. -/
def small (word : String) : String := String.ofList (lower word.toList)

/-- The style with an attribute switched on or off. -/
def withAttribute (s : Style) (name : String) (on : Bool) : Style :=
  { s with attributes := (name, on) :: s.attributes }

/-- A style with the attributes, colours and address that words name, if all of them do. -/
def addWords (s : Style) : List String → Except NumeralFault (Option Style)
  | [] => .ok (some s)
  | word :: words =>
    if small word = "on" then
      match words with
      | colour :: rest => do
        if ← isColour (small colour) then
          addWords { s with background := some (small colour) } rest
        else return none
      | [] => .ok none
    else if small word = "not" then
      match words with
      | word :: rest =>
        match attribute? word with
        | some name => addWords (s.withAttribute name false) rest
        | none => .ok none
      | [] => .ok none
    else if small word = "link" then
      match words with
      | address :: rest => addWords { s with link := some address } rest
      | [] => .ok none
    else
      match attribute? (small word) with
      | some name => addWords (s.withAttribute name true) words
      | none => do
        if ← isColour (small word) then addWords { s with colour := some (small word) } words
        else return none

/-- The words that name a style, in their normal order. -/
def words (s : Style) : List String :=
  (attributeNames.flatMap fun name =>
    match s.attributes.lookup name with
    | some true => [name]
    | some false => ["not", name]
    | none => [])
  ++ s.colour.toList
  ++ (s.background.map fun colour => ["on", colour]).getD []
  ++ (s.link.map fun address => ["link", address]).getD []

/-- The name of a style. -/
def text (s : Style) : String :=
  if s.words.isEmpty then "none" else String.intercalate " " s.words

end Style

/-- The words of a text between blanks. -/
def wordsOf (cs : List Char) : List String :=
  go [] cs
where
  /-- The words of a text after the characters of an unfinished one, the last first. -/
  go (word : List Char) : List Char → List String
    | [] => if word.isEmpty then [] else [String.ofList word.reverse]
    | c :: cs =>
      if isBlank c then
        if word.isEmpty then go [] cs else String.ofList word.reverse :: go [] cs
      else go (c :: word) cs

/-- The normal form of the name of a style. -/
def styleName (name : List Char) : Except NumeralFault String :=
  match wordsOf name with
  | [] => .ok "none"
  | ["none"] => .ok "none"
  | words => do
    match ← Style.plain.addWords words with
    | some s => return s.text
    | none => return String.ofList (lower (trim name))

/-- The colours of a style can be worked out; a text that names no style has none. -/
def checkStyle (style : List Char) : Except NumeralFault Unit :=
  (Style.plain.addWords (wordsOf style)).map fun _ => ()

end Settings.Terminal
