import Settings.Expression.Reader

/-!
# Literals

A literal is an expression that writes a value out: numbers with signs, sums of a real and an
imaginary number, texts, constants, and tuples, sets and dictionaries of literals.  Items of
sets and keys of dictionaries have to be hashable, which sets and dictionaries are not.

## Main definitions

* `LiteralFault` — why a text is no literal.
* `Expression.check` — whether an expression is a literal.
* `checkLiteral` — whether a text is one.
-/

namespace Settings

/-- Why a text is no literal. -/
inductive LiteralFault where
  /-- It is no expression. -/
  | unreadable (message : String)
  /-- It is an expression, but writes no value out. -/
  | malformed
  /-- A set or a dictionary stands where a value has to be hashable. -/
  | unhashable (kind : String)
  deriving DecidableEq, Repr, Inhabited

/-- The wording of a fault. -/
def LiteralFault.message : LiteralFault → String
  | .unreadable message => message
  | .malformed => "malformed node or string"
  | .unhashable kind => s!"unhashable type: '{kind}'"

namespace Expression

/-- The number that an expression is. -/
def number? : Expression → Option NumberForm
  | .number form => some form
  | _ => none

/-- The number that an expression is, perhaps with a sign. -/
def signedNumber? : Expression → Option NumberForm
  | .signed e => e.number?
  | e => e.number?

/-- The expression is the sum or difference of a real and an imaginary number. -/
def isComplex (left right : Expression) : Bool :=
  match left.signedNumber?, right.number? with
  | some l, some r => l != .imaginary && r == .imaginary
  | _, _ => false

/-- The kind of a value that is not hashable; a tuple is of the kind of its first such item. -/
abbrev Unhashable := Option String

/-- A value where it has to be hashable. -/
def demandHashable : Unhashable → Except LiteralFault Unit
  | some kind => .error (.unhashable kind)
  | none => .ok ()

mutual

/-- The hashability of the value that an expression writes out. -/
def check : Expression → Except LiteralFault Unhashable
  | .number _ => .ok none
  | .text => .ok none
  | .constant _ => .ok none
  | .dots => .ok none
  | .signed e => if e.number?.isSome then .ok none else .error .malformed
  | .sum left right => if isComplex left right then .ok none else .error .malformed
  | .tuple items => checkItems items
  | .set items => do
    checkMembers items
    return some "set"
  | .dictionary pairs => do
    checkPairs pairs
    return some "dict"
  | .call (.name "set") true => .ok (some "set")
  | _ => .error .malformed

/-- The hashability of the tuple of some items. -/
def checkItems : List Expression → Except LiteralFault Unhashable
  | [] => .ok none
  | e :: es => do
    let first ← check e
    let rest ← checkItems es
    return first.or rest

/-- The members of a set are literals and hashable. -/
def checkMembers : List Expression → Except LiteralFault Unit
  | [] => .ok ()
  | e :: es => do
    let value ← check e
    demandHashable value
    checkMembers es

/-- The pairs of a dictionary are literals with hashable keys. -/
def checkPairs : List (Option Expression × Expression) → Except LiteralFault Unit
  | [] => .ok ()
  | (none, _) :: _ => .error .malformed
  | (some key, value) :: pairs => do
    let key ← check key
    let _ ← check value
    demandHashable key
    checkPairs pairs

end

end Expression

/-- Whether a text is a literal.  Blanks before it do not count. -/
def checkLiteral (text : List Char) : Except LiteralFault Unit :=
  match Expression.read (text.dropWhile fun c => c == ' ' || c == '\t') with
  | .error message => .error (.unreadable message)
  | .ok e => e.check.map fun _ => ()

end Settings
