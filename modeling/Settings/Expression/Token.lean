import Settings.Text.DecimalDigit
import Settings.Text.NameChar

/-!
# Tokens of expressions

An expression is written with names, numbers, quoted texts and operators.  Within brackets
it may go on over several lines.

## Main definitions

* `Token`, `Lexeme` — the tokens, and the tokens in their places.
* `NumberForm`, `TextForm` — what is known of a number and of a quoted text.
* `tooDeep`, `keywords`, `operators` — the words and signs, and the limit for brackets.
-/

namespace Settings.Expression

/-- What is known of a number. -/
inductive NumberForm where
  /-- An integer of that many decimal digits. -/
  | integer (digits : Nat)
  /-- An integer to another base, or a number with a fraction or an exponent. -/
  | real
  /-- A multiple of the imaginary unit. -/
  | imaginary
  deriving DecidableEq, Repr, Inhabited

/-- A quoted text: how it is marked before its quotes, and what stands between them. -/
structure TextForm where
  /-- Backslashes stand for themselves. -/
  raw : Bool
  /-- It is a string of octets. -/
  octets : Bool
  /-- It has places for expressions. -/
  template : Bool
  /-- The characters between the quotes. -/
  body : List Char
  deriving DecidableEq, Repr, Inhabited

/-- A token. -/
inductive Token where
  /-- A name. -/
  | name (word : String)
  /-- A word with a meaning of its own. -/
  | keyword (word : String)
  /-- A number. -/
  | number (form : NumberForm)
  /-- A quoted text. -/
  | text (form : TextForm)
  /-- A bracket, an operator or another sign. -/
  | sign (text : String)
  /-- The end of a line that is not within brackets. -/
  | lineEnd
  /-- The blanks before a line that is further to the right than the one before. -/
  | indent
  /-- The text ends here, or what comes next cannot be made out; what is wrong with that. -/
  | ended (message : String)
  /-- What comes next is no token, whatever the tokens before it mean. -/
  | broken (message : String)
  deriving DecidableEq, Repr, Inhabited

/-- What is wrong with an expression that goes on to a token. -/
def Token.fault? : Token → Option String
  | .indent => some "unexpected indent"
  | .ended message => some message
  | .broken message => some message
  | _ => none

/-- A token in its place. -/
structure Lexeme where
  /-- The token. -/
  token : Token
  /-- The number of brackets that are open after it. -/
  depth : Nat
  /-- The line that it starts in. -/
  line : Nat
  /-- The text has more characters after it, as far as the token has to be told from longer
  ones. -/
  isFollowed : Bool
  deriving DecidableEq, Repr, Inhabited

/-- The words with a meaning of their own. -/
def keywords : List String :=
  ["False", "None", "True", "and", "as", "assert", "async", "await", "break", "class", "continue",
   "def", "del", "elif", "else", "except", "finally", "for", "from", "global", "if", "import",
   "in", "is", "lambda", "nonlocal", "not", "or", "pass", "raise", "return", "try", "while",
   "with", "yield"]

/-- The words that have a meaning in some places only. -/
def softKeywords : List String := ["_", "case", "match"]

/-- The word is the start of a word that has a meaning in some places. -/
def mayBeSoft (word : String) : Bool := softKeywords.any (word.toList.isPrefixOf ·.toList)

/-- The signs of several characters, the longest first. -/
def operators : List String :=
  ["**=", "//=", ">>=", "<<=", "...", "!=", "%=", "&=", "**", "*=", "+=", "-=", "->", "//", "/=",
   ":=", "<<", "<=", "<>", "==", ">=", ">>", "@=", "^=", "|="]

/-- The number of characters of the longest signs. -/
def longestSign : Nat := 3

/-- The number of brackets that may be open. -/
def tooDeep : Nat := 200

/-- The marks before the quotes of a text, in small letters. -/
def textMarks : List String := ["b", "r", "u", "f", "br", "rb", "fr", "rf"]

/-- The closing bracket of an opening one. -/
def closing (c : Char) : Char := if c = '(' then ')' else if c = '[' then ']' else '}'

end Settings.Expression
