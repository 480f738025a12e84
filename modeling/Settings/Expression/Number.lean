import Settings.Expression.Token

/-!
# Numbers in expressions

Digits may be grouped by single underscores.  Integers are written to base ten without zeros
at their start, or to base two, eight or sixteen; numbers with a fraction or an exponent and
imaginary numbers to base ten.  A letter may not follow a number, unless one of a few
keywords starts with it.

## Main definitions

* `readNumber` — the form of the number at the start of a text, and the text after it.
-/

namespace Settings.Expression

open Text

/-- A result of reading, with the text that is left, or the wording of what is wrong. -/
abbrev Scanned (α : Type) := Except String (α × List Char)

/-- The wording about a number of a kind. -/
def invalidLiteral (kind : String) : String := s!"invalid {kind} literal"

/-- The character may stand in a name, as far as can be told before the name is read. -/
def mayContinueName (c : Char) : Bool := isAsciiWordChar c || decide (0x80 ≤ c.toNat)

/-- The keywords that may follow a number at once, without their first letter. -/
def followers : List (Char × String) :=
  [('a', "nd"), ('e', "lse"), ('f', "or"), ('n', "ot"), ('o', "r")]

/-- A keyword that may follow a number at once starts here.  Of those with `i`, two letters
are enough. -/
def startsFollower : List Char → Bool
  | [] => false
  | 'i' :: cs => cs.head?.any fun c => c == 'f' || c == 'n' || c == 's'
  | c :: cs =>
    match followers.lookup c with
    | none => false
    | some more =>
      more.toList.isPrefixOf cs && !(cs.drop more.length).head?.any mayContinueName

/-- A number of a kind ends here. -/
def endNumber (kind : String) (form : NumberForm) (cs : List Char) : Scanned NumberForm :=
  match cs with
  | [] => .ok (form, cs)
  | c :: _ =>
    if mayContinueName c && !startsFollower cs then .error (invalidLiteral kind)
    else .ok (form, cs)

/-- The digits of a number to base ten, grouped by underscores; the first character is a
digit. -/
def groupedDigits : Nat → List Char → Scanned (List Char)
  | 0, cs => .ok ([], cs)
  | fuel + 1, cs =>
    let digits := cs.takeWhile isAsciiDigit
    match cs.dropWhile isAsciiDigit with
    | '_' :: c :: rest =>
      if isAsciiDigit c then
        (groupedDigits fuel (c :: rest)).map fun (more, rest) => (digits ++ more, rest)
      else .error (invalidLiteral "decimal")
    | ['_'] => .error (invalidLiteral "decimal")
    | rest => .ok (digits, rest)

/-- The digits of a number to base ten. -/
def readDigits (cs : List Char) : Scanned (List Char) := groupedDigits cs.length cs

/-- The end of a number with a fraction or an exponent. -/
def endReal : List Char → Scanned NumberForm
  | c :: cs =>
    if c = 'j' || c = 'J' then endNumber "imaginary" .imaginary cs
    else endNumber "decimal" .real (c :: cs)
  | [] => .ok (.real, [])

/-- The exponent of a number, if there is one, and its end. -/
def readExponent : List Char → Scanned NumberForm
  | e :: cs =>
    if e = 'e' || e = 'E' then
      match cs with
      | [] => endNumber "decimal" .real [e]
      | c :: rest =>
        let signed := c == '+' || c == '-'
        let digits := if signed then rest else cs
        if digits.head?.any isAsciiDigit then
          match readDigits digits with
          | .error message => .error message
          | .ok (_, rest) => endReal rest
        else if signed then .error (invalidLiteral "decimal")
        else endNumber "decimal" .real (e :: cs)
    else endReal (e :: cs)
  | [] => .ok (.real, [])

/-- The fraction of a number after its point, if there is one, and its end. -/
def readFraction (cs : List Char) : Scanned NumberForm :=
  if cs.head?.any isAsciiDigit then
    match readDigits cs with
    | .error message => .error message
    | .ok (_, rest) => readExponent rest
  else readExponent cs

/-- The wording about zeros at the start of an integer. -/
def leadingZeros : String :=
  "leading zeros in decimal integer literals are not permitted; "
    ++ "use an 0o prefix for octal integers"

/-- A number to base ten. -/
def readDecimal (cs : List Char) : Scanned NumberForm :=
  match readDigits cs with
  | .error message => .error message
  | .ok (digits, rest) =>
    match rest with
    | '.' :: rest => readFraction rest
    | c :: more =>
      if c = 'e' || c = 'E' then readExponent rest
      else if c = 'j' || c = 'J' then endNumber "imaginary" .imaginary more
      else finish digits rest
    | [] => finish digits rest
where
  /-- An integer ends here. -/
  finish (digits rest : List Char) : Scanned NumberForm :=
    if digits.head? = some '0' && digits.any (· != '0') then .error leadingZeros
    else endNumber "decimal" (.integer digits.length) rest

/-- A base that integers are written to. -/
structure Base where
  /-- Its name. -/
  name : String
  /-- Its digits. -/
  isDigit : Char → Bool

/-- The base that a letter after a zero stands for. -/
def base? (c : Char) : Option Base :=
  if c = 'x' || c = 'X' then
    some ⟨"hexadecimal", fun c => isAsciiDigit c || ('a' ≤ c && c ≤ 'f') || ('A' ≤ c && c ≤ 'F')⟩
  else if c = 'o' || c = 'O' then some ⟨"octal", fun c => '0' ≤ c && c ≤ '7'⟩
  else if c = 'b' || c = 'B' then some ⟨"binary", fun c => c == '0' || c == '1'⟩
  else none

/-- The wording about a character that is no digit of a base. -/
def Base.refuse (b : Base) : List Char → String
  | c :: _ =>
    if isAsciiDigit c then s!"invalid digit '{c}' in {b.name} literal" else invalidLiteral b.name
  | [] => invalidLiteral b.name

/-- The digits of an integer to a base, grouped by underscores, and its end. -/
def readBased (b : Base) : Nat → List Char → Scanned NumberForm
  | 0, cs => .error (b.refuse cs)
  | fuel + 1, cs =>
    let cs := match cs with
      | '_' :: rest => rest
      | cs => cs
    if (cs.takeWhile b.isDigit).isEmpty then .error (b.refuse cs)
    else
      match cs.dropWhile b.isDigit with
      | '_' :: rest => readBased b fuel ('_' :: rest)
      | c :: rest =>
        if isAsciiDigit c then .error (b.refuse (c :: rest))
        else endNumber b.name .real (c :: rest)
      | [] => .ok (.real, [])

/-- The number at the start of a text: a digit, or a point with a digit after it. -/
def readNumber (cs : List Char) : Scanned NumberForm :=
  match cs with
  | '.' :: rest => readFraction rest
  | '0' :: c :: rest =>
    match base? c with
    | some b => readBased b (rest.length + 1) rest
    | none => readDecimal cs
  | cs => readDecimal cs

end Settings.Expression
