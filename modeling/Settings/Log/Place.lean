import Settings.Text.DecimalDigit
import Settings.Number.Decimal

/-!
# Places in templates

A place for an argument starts with a percent sign.  It may name a field in round brackets,
then come flags, a width, a precision after a point, and last the letter that says how the
argument is written.  Width and precision are digits, or a star that stands for an argument of
its own.

## Main definitions

* `Place` — a place as it is written.
* `Piece`, `pieces` — a template as plain text and places.
-/

namespace Settings.Log

open Text Number

/-- The field that a place names. -/
inductive FieldName where
  /-- None. -/
  | absent
  /-- The field of a name. -/
  | named (name : List Char)
  /-- The bracket around the name is not closed. -/
  | unclosed
  deriving DecidableEq, Repr, Inhabited

/-- A width or a precision. -/
inductive Count where
  /-- None. -/
  | absent
  /-- A number. -/
  | digits (n : Nat)
  /-- The next argument. -/
  | star
  deriving DecidableEq, Repr, Inhabited

/-- A place for an argument. -/
structure Place where
  /-- The field that it names. -/
  field : FieldName
  /-- The flags. -/
  flags : List Char
  /-- The width. -/
  width : Count
  /-- The precision. -/
  precision : Count
  /-- The letter, unless the template ends before it. -/
  letter : Option Char
  /-- The index of the letter in the template. -/
  index : Nat
  deriving DecidableEq, Repr, Inhabited

/-! ### Reading a place -/

/-- The name of a field up to its closing bracket, and the text after that; `depth` brackets
inside the name are open. -/
def closeBracket (depth : Nat) : List Char → Option (List Char × List Char)
  | [] => none
  | c :: cs =>
    let more (depth : Nat) := (closeBracket depth cs).map fun found => (c :: found.1, found.2)
    if c = ')' then
      match depth with
      | 0 => some ([], cs)
      | depth + 1 => more depth
    else if c = '(' then more (depth + 1)
    else more depth

/-- The field that a place names, and the text after it.  Nothing is left after a bracket that
is not closed. -/
def takeField : List Char → FieldName × List Char
  | '(' :: cs =>
    match closeBracket 0 cs with
    | some (name, rest) => (.named name, rest)
    | none => (.unclosed, [])
  | cs => (.absent, cs)

/-- The character is a flag: for the left side, a sign, a space for a sign, a prefix, zeros. -/
def isFlag (c : Char) : Bool := c == '-' || c == '+' || c == ' ' || c == '#' || c == '0'

/-- A width or a precision, and the text after it. -/
def takeCount : List Char → Count × List Char
  | '*' :: cs => (.star, cs)
  | cs =>
    match cs.takeWhile isAsciiDigit with
    | [] => (.absent, cs)
    | ds => (.digits (ofDigits (ds.filterMap digitValue?)), cs.dropWhile isAsciiDigit)

/-- A precision after its point, where no digits are as good as a zero, and the text after it. -/
def takePrecision : List Char → Count × List Char
  | '.' :: cs =>
    match takeCount cs with
    | (.absent, rest) => (.digits 0, rest)
    | found => found
  | cs => (.absent, cs)

/-- A text after one of the letters for the size of a number, which mean nothing. -/
def skipSize : List Char → List Char
  | c :: cs => if c == 'h' || c == 'l' || c == 'L' then cs else c :: cs
  | [] => []

/-- The place after a percent sign, and the text after it.  `start` is the index of the first
character. -/
def takePlace (start : Nat) (cs : List Char) : Place × List Char :=
  let (field, afterField) := takeField cs
  let (width, afterWidth) := takeCount (afterField.dropWhile isFlag)
  let (precision, afterPrecision) := takePrecision afterWidth
  let rest := skipSize afterPrecision
  (⟨field, afterField.takeWhile isFlag, width, precision, rest.head?,
    start + (cs.length - rest.length)⟩, rest.tail)

/-! ### What is left after a place -/

theorem suffix_of_closeBracket {depth : Nat} {cs name rest : List Char}
    (h : closeBracket depth cs = some (name, rest)) : rest <:+ cs := by
  induction cs generalizing depth name with
  | nil => simp [closeBracket] at h
  | cons c cs ih =>
    have tail {d : Nat} (h : (closeBracket d cs).map (fun found => (c :: found.1, found.2)) =
        some (name, rest)) : rest <:+ c :: cs := by
      obtain ⟨found, hf, he⟩ := Option.map_eq_some_iff.1 h
      obtain ⟨inner, after⟩ := found
      simp only [Prod.mk.injEq] at he
      obtain ⟨-, rfl⟩ := he
      exact (ih hf).trans (List.suffix_cons c cs)
    simp only [closeBracket] at h
    split at h
    · split at h
      · simp only [Option.some.injEq, Prod.mk.injEq] at h
        exact h.2 ▸ List.suffix_cons c cs
      · exact tail h
    · split at h
      · exact tail h
      · exact tail h

theorem takeField_suffix (cs : List Char) : (takeField cs).2 <:+ cs := by
  unfold takeField
  split
  · split
    · next h => exact (suffix_of_closeBracket h).trans (List.suffix_cons _ _)
    · exact List.nil_suffix
  · exact List.suffix_rfl

theorem takeCount_suffix (cs : List Char) : (takeCount cs).2 <:+ cs := by
  unfold takeCount
  split
  · exact List.suffix_cons _ _
  · split
    · exact List.suffix_rfl
    · exact List.dropWhile_suffix _

theorem takePrecision_suffix (cs : List Char) : (takePrecision cs).2 <:+ cs := by
  unfold takePrecision
  split
  · next cs =>
    have h := (takeCount_suffix cs).trans (List.suffix_cons '.' cs)
    split
    · next hc => rw [hc] at h; exact h
    · exact h
  · exact List.suffix_rfl

theorem skipSize_suffix (cs : List Char) : skipSize cs <:+ cs := by
  unfold skipSize
  split
  · split
    · exact List.suffix_cons _ _
    · exact List.suffix_rfl
  · exact List.suffix_rfl

theorem takePlace_suffix (start : Nat) (cs : List Char) : (takePlace start cs).2 <:+ cs :=
  (List.tail_suffix _).trans <| (skipSize_suffix _).trans <| (takePrecision_suffix _).trans <|
    (takeCount_suffix _).trans <| (List.dropWhile_suffix _).trans <| takeField_suffix cs

/-! ### Pieces of a template -/

/-- A piece of a template. -/
inductive Piece where
  /-- A character of plain text. -/
  | plain (c : Char)
  /-- A place for an argument. -/
  | place (p : Place)
  deriving DecidableEq, Repr, Inhabited

/-- The pieces of a template from the character with an index on.  Two percent signs are one
in plain text. -/
def piecesFrom (index : Nat) (cs : List Char) : List Piece :=
  match cs with
  | [] => []
  | '%' :: '%' :: rest => .plain '%' :: piecesFrom (index + 2) rest
  | '%' :: rest =>
    let place := takePlace (index + 1) rest
    .place place.1 :: piecesFrom (index + 1 + (rest.length - place.2.length)) place.2
  | c :: rest => .plain c :: piecesFrom (index + 1) rest
termination_by cs.length
decreasing_by
  · simp only [List.length_cons]; omega
  · have := (takePlace_suffix (index + 1) rest).length_le
    simp only [List.length_cons]; omega
  · simp only [List.length_cons]; omega

/-- The pieces of a template. -/
def pieces (template : List Char) : List Piece := piecesFrom 0 template

end Settings.Log
