import Settings.Expression.Token

/-!
# Expressions

Of an expression is kept what tells whether it writes a value out, and how messages about a
place for a name speak of it.

## Main definitions

* `Expression` — the expressions.
* `Expression.describe` — how messages speak of one.
* `Expression.badTarget?` — what keeps an expression from being the target of a loop.
-/

namespace Settings

open Expression in
/-- An expression. -/
inductive Expression where
  /-- A name. -/
  | name (spelling : String)
  /-- A number. -/
  | number (form : NumberForm)
  /-- A quoted text without places. -/
  | text
  /-- A quoted text with places. -/
  | template
  /-- One of the words `True`, `False` and `None`. -/
  | constant (spelling : String)
  /-- Three dots. -/
  | dots
  /-- Expressions in parentheses. -/
  | tuple (items : List Expression)
  /-- Expressions in braces. -/
  | set (items : List Expression)
  /-- Pairs in braces; what is unpacked there has no key. -/
  | dictionary (pairs : List (Option Expression × Expression))
  /-- What a loop yields; how messages speak of it. -/
  | loop (description : String)
  /-- An expression that is unpacked. -/
  | starred (inner : Expression)
  /-- An attribute. -/
  | attribute
  /-- A call of a function, without arguments or with some. -/
  | call (function : Expression) (bare : Bool)
  /-- A number with a sign, or anything else with one. -/
  | signed (inner : Expression)
  /-- A sum or a difference. -/
  | sum (left right : Expression)
  /-- Any other operation. -/
  | operation
  /-- A comparison, by its first operand; it may be a test for membership. -/
  | comparison (left : Expression) (isMembership : Bool)
  /-- One of two expressions. -/
  | conditional
  /-- A function. -/
  | lambda
  /-- An assignment. -/
  | assignment
  /-- A value that is yielded. -/
  | yielded
  /-- A value that is awaited. -/
  | awaited
  deriving Inhabited

namespace Expression

/-- How messages speak of an expression. -/
def describe : Expression → String
  | .name _ => "name"
  | .number _ => "literal"
  | .text => "literal"
  | .template => "f-string expression"
  | .constant spelling => spelling
  | .dots => "ellipsis"
  | .tuple _ => "tuple"
  | .set _ => "set display"
  | .dictionary _ => "dict literal"
  | .loop description => description
  | .starred _ => "starred"
  | .attribute => "attribute"
  | .call _ _ => "function call"
  | .signed _ => "expression"
  | .sum _ _ => "expression"
  | .operation => "expression"
  | .comparison _ _ => "comparison"
  | .conditional => "conditional expression"
  | .lambda => "lambda"
  | .assignment => "named expression"
  | .yielded => "yield expression"
  | .awaited => "await expression"

mutual

/-- What keeps an expression from being the target of a loop. -/
def badTarget? : Expression → Option Expression
  | .name _ => none
  | .attribute => none
  | .tuple items => badItem? items
  | .starred inner => badTarget? inner
  | .comparison left isMembership => if isMembership then badTarget? left else none
  | e => some e

/-- What keeps expressions from being targets of a loop. -/
def badItem? : List Expression → Option Expression
  | [] => none
  | e :: es => (badTarget? e).or (badItem? es)

end

/-- The name of a statement that is written like a call without parentheses. -/
def isStatementName : Expression → Bool
  | .name spelling => spelling == "print" || spelling == "exec"
  | _ => false

end Expression

end Settings
