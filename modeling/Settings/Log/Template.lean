import Settings.Log.Place
import Settings.Number.Rounded
import Settings.Value

/-!
# Message templates

A template is a text with places for arguments.  The letter of a place says how its argument
is written: `s` as a text, `r` as a literal, `a` as a literal in ASCII, `d` as an integer, `x`
and `o` as one in another base, `e`, `f` and `g` as a floating point number, `c` as a
character.  Each place takes the next argument, and at the end no argument may be left.  A
template without arguments is not a template but a message.

## Main definitions

* `TemplateFault` — why arguments do not fit a template.
* `Arguments` — arguments in order, or fields by their names.
* `fillPlace` — the text of a place.
* `fill` — the message of a template with its arguments.
-/

namespace Settings.Log

open Number Text

/-! ### Faults -/

/-- Why arguments do not fit a template. -/
inductive TemplateFault where
  /-- There are arguments left. -/
  | tooManyArguments
  /-- There is no argument for a place. -/
  | tooFewArguments
  /-- A place names a field, and the arguments have no names. -/
  | noFields
  /-- The bracket around the name of a field is not closed. -/
  | unclosedField
  /-- There is no field of a name. -/
  | unknownField (name : String)
  /-- A width or a precision that is an argument is no integer. -/
  | starNotInteger
  /-- A width or a precision that is an argument is too large; the type that it exceeds. -/
  | starTooLarge (type : String)
  /-- A width or a precision in digits is too large; which of them. -/
  | countTooLarge (what : String)
  /-- The argument of a place for a number is none; the letter and its kind. -/
  | notANumber (letter : Char) (kind : String)
  /-- The argument of a place for an integer in another base is none; the letter and its kind. -/
  | notAnInteger (letter : Char) (kind : String)
  /-- The argument of a place for a floating point number is none; its kind. -/
  | notReal (kind : String)
  /-- The argument of a place for a character is none. -/
  | notACharacter
  /-- The argument of a place for a character is no code point. -/
  | notACodePoint
  /-- The integer of a place for a floating point number is too large for one. -/
  | tooLargeForReal
  /-- The argument of a place for an integer is infinite. -/
  | infinite
  /-- The argument of a place for an integer is undefined. -/
  | undefined
  /-- The template ends inside a place. -/
  | incomplete
  /-- There is no such place; the character and its index. -/
  | unsupported (c : Char) (index : Nat)
  /-- The argument is too long to be written. -/
  | numeral (fault : NumeralFault)
  deriving Repr, Inhabited

/-- The digits of a number in base 16 without leading zeros. -/
def hexNumeral (n : Nat) : List Char := Nat.toDigits 16 n

/-- The wording of a fault. -/
def TemplateFault.message : TemplateFault → String
  | .tooManyArguments => "not all arguments converted during string formatting"
  | .tooFewArguments => "not enough arguments for format string"
  | .noFields => "format requires a mapping"
  | .unclosedField => "incomplete format key"
  | .unknownField name => String.ofList (quote name.toList)
  | .starNotInteger => "* wants int"
  | .starTooLarge type => s!"Python int too large to convert to C {type}"
  | .countTooLarge what => s!"{what} too big"
  | .notANumber letter kind => s!"%{letter} format: a real number is required, not {kind}"
  | .notAnInteger letter kind => s!"%{letter} format: an integer is required, not {kind}"
  | .notReal kind => s!"must be real number, not {kind}"
  | .notACharacter => "%c requires int or char"
  | .notACodePoint => "%c arg not in range(0x110000)"
  | .tooLargeForReal => "int too large to convert to float"
  | .infinite => "cannot convert float infinity to integer"
  | .undefined => "cannot convert float NaN to integer"
  | .incomplete => "incomplete format"
  | .unsupported c index =>
    let shown := if decide (31 ≤ c.toNat) && decide (c.toNat ≤ 126) then c else '?'
    let code := String.ofList (hexNumeral c.toNat)
    s!"unsupported format character '{shown}' (0x{code}) at index {Number.numeral index}"
  | .numeral fault => fault.message

/-! ### Arguments -/

/-- The arguments of a template that are not used up. -/
inductive Arguments where
  /-- One after the other. -/
  | sequence (values : List Value)
  /-- Fields by their names, and the value for the next place that names none. -/
  | fields (all : List (String × Value)) (next : Option Value)
  deriving Inhabited

namespace Arguments

/-- The arguments of a record.  A single dictionary with fields stands for its fields, and the
first place may take it as a whole. -/
def ofValues : List Value → Arguments
  | [.dict (f :: fs)] => .fields (f :: fs) (some (.dict (f :: fs)))
  | values => .sequence values

/-- The next argument, and those after it. -/
def take : Arguments → Except TemplateFault (Value × Arguments)
  | .sequence (v :: vs) => .ok (v, .sequence vs)
  | .fields all (some v) => .ok (v, .fields all none)
  | _ => .error .tooFewArguments

/-- The arguments where the next one is the field that a place names. -/
def select (args : Arguments) : FieldName → Except TemplateFault Arguments
  | .absent => .ok args
  | name =>
    match args, name with
    | .fields all _, .named name =>
      match all.lookup (String.ofList name) with
      | some v => .ok (.fields all (some v))
      | none => .error (.unknownField (String.ofList name))
    | .fields _ _, _ => .error .unclosedField
    | .sequence _, _ => .error .noFields

/-- All fields have been used as far as the places so far have named them. -/
def checkPlace : Arguments → Except TemplateFault Unit
  | .fields _ (some _) => .error .tooManyArguments
  | _ => .ok ()

/-- No argument is left; fields may be. -/
def checkEnd : Arguments → Except TemplateFault Unit
  | .sequence (_ :: _) => .error .tooManyArguments
  | _ => .ok ()

end Arguments

/-! ### Widths and precisions -/

/-- The largest width. -/
def largestWidth : Nat := 0x7FFFFFFFFFFFFFFF

/-- The largest precision. -/
def largestPrecision : Nat := 0x7FFFFFFF

/-- The integer that an argument is; truth values count. -/
def integer? : Value → Option Int
  | .scalar (.int n) => some n
  | .scalar (.bool b) => some (if b then 1 else 0)
  | _ => none

/-- A width or a precision, named by `what`, with its `limit`; an argument for it is of the type
named by `type`. -/
def Count.value (limit : Nat) (what type : String) (args : Arguments) :
    Count → Except TemplateFault (Option Int × Arguments)
  | .absent => .ok (none, args)
  | .digits n => if limit < n then .error (.countTooLarge what) else .ok (some (n : Int), args)
  | .star => do
    let (v, args) ← args.take
    match integer? v with
    | none => throw .starNotInteger
    | some n =>
      if n < -(limit : Int) - 1 ∨ (limit : Int) < n then throw (.starTooLarge type)
      else return (some n, args)

/-- How the text of an argument is laid out. -/
structure Shape where
  /-- The flags. -/
  flags : List Char
  /-- The least number of characters. -/
  width : Nat
  /-- The precision. -/
  precision : Option Nat
  deriving DecidableEq, Repr, Inhabited

/-- The shape has a flag. -/
def Shape.has (s : Shape) (flag : Char) : Bool := s.flags.contains flag

/-- The shape of a place, and the arguments after those for it.  A negative width puts the text
on the left side; a negative precision is zero. -/
def Place.shape (p : Place) (args : Arguments) : Except TemplateFault (Shape × Arguments) := do
  let (width, args) ← p.width.value largestWidth "width" "ssize_t" args
  let (precision, args) ← p.precision.value largestPrecision "precision" "int" args
  let width := width.getD 0
  let flags := if width < 0 then '-' :: p.flags else p.flags
  return (⟨flags, width.natAbs, precision.map Int.toNat⟩, args)

/-! ### Texts of arguments -/

/-- The text of an argument: sign, prefix and body. -/
structure ArgumentText where
  /-- The sign of a number. -/
  sign : List Char
  /-- The prefix for the base of a number. -/
  base : List Char
  /-- The text after that. -/
  body : List Char
  /-- It is the text of a number. -/
  isNumber : Bool
  deriving DecidableEq, Repr, Inhabited

/-- A text with an upper bound for its characters. -/
def plainArgument (s : Shape) (text : List Char) : ArgumentText :=
  ⟨[], [], (s.precision.map fun n => text.take n).getD text, false⟩

/-- The sign of a number. -/
def signText (s : Shape) (negative : Bool) : List Char :=
  if negative then ['-']
  else if s.has '+' then ['+']
  else if s.has ' ' then [' ']
  else []

/-- The text of an integer from its digits. -/
def integerArgument (s : Shape) (negative : Bool) (base digits : List Char) : ArgumentText :=
  let zeros := List.replicate (s.precision.getD 0 - digits.length) '0'
  ⟨signText s negative, if s.has '#' then base else [], zeros ++ digits, true⟩

/-- A literal where the characters beyond ASCII are escaped. -/
def asciiOnly (literal : List Char) : List Char :=
  literal.flatMap fun c => if c.toNat < 0x80 then [c] else escapeCode c.toNat

/-- A text that may be too long to be written. -/
def written (s : Shape) (change : List Char → List Char) (text : Except NumeralFault String) :
    Except TemplateFault ArgumentText :=
  (text.mapError .numeral).map fun text => plainArgument s (change text.toList)

/-- An argument as an integer. -/
def decimalArgument (s : Shape) (letter : Char) (v : Value) :
    Except TemplateFault ArgumentText := do
  let n ← match v with
    | .float x =>
      if x.isUndefined then throw .undefined
      else if x.isFinite then pure x.truncate
      else throw .infinite
    | v =>
      match integer? v with
      | some n => pure n
      | none => throw (.notANumber letter v.kindName)
  let _ ← (printInteger n).mapError .numeral
  return integerArgument s (decide (n < 0)) [] (decimal n.natAbs)

/-- An argument as an integer in base 8 or 16. -/
def basedArgument (s : Shape) (letter : Char) (v : Value) : Except TemplateFault ArgumentText :=
  match integer? v with
  | none => .error (.notAnInteger letter v.kindName)
  | some n =>
    let digits := Nat.toDigits (if letter = 'o' then 8 else 16) n.natAbs
    let digits := if letter = 'X' then digits.map Char.toUpper else digits
    .ok (integerArgument s (decide (n < 0)) ['0', letter] digits)

/-- The form of a floating point number by the small letter of its place. -/
def formOf (letter : Char) : Form :=
  if letter = 'e' then .scientific else if letter = 'f' then .fixed else .general

/-- An argument as a floating point number. -/
def realArgument (s : Shape) (letter : Char) (v : Value) : Except TemplateFault ArgumentText := do
  let x ← match v with
    | .float x => pure x
    | v =>
      match integer? v with
      | none => throw (.notReal v.kindName)
      | some n =>
        let x := Binary64.ofRatio (decide (n < 0)) ⟨n.natAbs, 1⟩
        if x.isFinite then pure x else throw .tooLargeForReal
  let text := x.rounded (formOf letter.toLower) (s.precision.getD 6) (s.has '#')
  let text := if letter.isUpper then text.map Char.toUpper else text
  return ⟨signText s (x.isNegative && !x.isUndefined), [], text, true⟩

/-- The character of a code point. -/
def characterOf (n : Int) : Except TemplateFault ArgumentText :=
  if 0 ≤ n ∧ n < 0x110000 then .ok ⟨[], [], [Char.ofNat n.toNat], false⟩ else .error .notACodePoint

/-- An argument as a character. -/
def characterArgument (v : Value) : Except TemplateFault ArgumentText :=
  match v.text? with
  | some t =>
    match t.toList with
    | [c] => .ok ⟨[], [], [c], false⟩
    | _ => .error .notACharacter
  | none =>
    match integer? v with
    | some n => characterOf n
    | none => .error .notACharacter

/-- The text of an argument at a place with a letter at an index. -/
def argumentText (s : Shape) (letter : Char) (index : Nat) (v : Value) :
    Except TemplateFault ArgumentText :=
  if letter = 's' then written s id v.display
  else if letter = 'r' then written s id v.literal
  else if letter = 'a' then written s asciiOnly v.literal
  else if letter = 'd' ∨ letter = 'i' ∨ letter = 'u' then decimalArgument s letter v
  else if letter = 'o' ∨ letter = 'x' ∨ letter = 'X' then basedArgument s letter v
  else if ['e', 'f', 'g'].contains letter.toLower then realArgument s letter v
  else if letter = 'c' then characterArgument v
  else .error (.unsupported letter index)

/-- A text filled up to its width: with spaces on the right or on the left, or with zeros
between the sign and the digits of a number. -/
def ArgumentText.fill (t : ArgumentText) (s : Shape) : List Char :=
  let missing := s.width - (t.sign.length + t.base.length + t.body.length)
  let spaces := List.replicate missing ' '
  if s.has '-' then t.sign ++ t.base ++ t.body ++ spaces
  else if t.isNumber && s.has '0' then t.sign ++ t.base ++ List.replicate missing '0' ++ t.body
  else spaces ++ t.sign ++ t.base ++ t.body

/-! ### Filling templates -/

/-- The text of a place, and the arguments after those for it. -/
def fillPlace (args : Arguments) (p : Place) : Except TemplateFault (List Char × Arguments) := do
  let args ← args.select p.field
  let (shape, args) ← p.shape args
  match p.letter with
  | none => throw .incomplete
  | some letter =>
    let (v, args) ← args.take
    let text ← argumentText shape letter p.index v
    args.checkPlace
    return (text.fill shape, args)

/-- The message of the pieces of a template. -/
def fillPieces (args : Arguments) : List Piece → Except TemplateFault (List Char)
  | [] => args.checkEnd.map fun _ => []
  | .plain c :: rest => (fillPieces args rest).map (c :: ·)
  | .place p :: rest => do
    let (text, args) ← fillPlace args p
    return text ++ (← fillPieces args rest)

/-- The message of a template with its arguments. -/
def fill (template : String) (args : List Value) : Except TemplateFault String :=
  if args.isEmpty then .ok template
  else (fillPieces (.ofValues args) (pieces template.toList)).map String.ofList

@[simp] theorem fill_nil (template : String) : fill template [] = .ok template := rfl

end Settings.Log
