import Settings.Expression.Basic
import Settings.Expression.Escape
import Settings.Expression.Scan

/-!
# Reading expressions

An expression is read twice if need be: plainly first, and if that fails, strictly, with an
eye on common slips that have messages of their own.  Whatever is wrong otherwise is invalid
syntax.

Reading goes down from conditionals to single tokens.  Every function returns the tokens
that are left, fails without a message where another reading may be tried, or fails with one
and is done.  What has been read as an expression at some place is kept, so that no place is
read again and again.  Calls are bounded by `fuel`, of which a nested expression takes less
than `fuelPerToken` for each of its tokens.

What is wrong with the tokens themselves, such as a text without its closing quote or a bracket
that stays open, counts when reading comes to the place, and after a failure also further on.

## Main definitions

* `Reading`, `Rest` — what a function of the reader returns.
* `Progress` — what has been read, and how far reading has come.
* `Tokens.verdict` — what is wrong with tokens that are no expression.
* `Expression.read` — the expression that a text writes.
-/

namespace Settings.Expression.Reader

open Number

/-! ### Results -/

/-- What is read, and the tokens that are left. -/
abbrev Rest (α : Type) := α × List Lexeme

/-- The levels of operators at which readings are remembered. -/
inductive Level where
  | expression
  | disjunction
  | conjunction
  | negation
  | operation
  | operand
  deriving DecidableEq, Repr, Inhabited

/-- What is known: what was read, at which number of tokens before the end, and with what
success, whether strictly or not. -/
abbrev Known := List ((Level × Nat) × Option (Rest Expression))

/-- How far reading has come. -/
structure Progress where
  /-- What is known. -/
  known : Known
  /-- The least number of tokens that were left at one that was looked at. -/
  left : Nat
  deriving Inhabited

/-- A step of reading.  It may fail, with a message if the failure is final. -/
abbrev Reading := ExceptT (Option String) (StateM Progress)

/-- A failure after which another reading may be tried. -/
def mismatch {α : Type} : Reading α := throw none

/-- A final failure. -/
def refuse {α : Type} (message : String) : Reading α := throw (some message)

/-- A reading that may be without success. -/
def attempt {α : Type} (r : Reading (Rest α)) : Reading (Option (Rest α)) :=
  tryCatch (some <$> r) fun
    | none => pure none
    | some message => refuse message

/-- A reading that may be without success and is remembered. -/
def remember (level : Level) (ts : List Lexeme) (r : Reading (Rest Expression)) :
    Reading (Rest Expression) := do
  let found ← match (← get).known.lookup (level, ts.length) with
    | some found => pure found
    | none =>
      let found ← attempt r
      modify fun p => { p with known := ((level, ts.length), found) :: p.known }
      pure found
  match found with
  | some rest => return rest
  | none => mismatch

/-- The next token, if there is one. -/
def next? (ts : List Lexeme) : Reading (Option Token) := do
  modify fun p => { p with left := min p.left ts.length }
  match ts with
  | [] => return none
  | l :: _ =>
    match l.token.fault? with
    | some message => refuse message
    | none => return some l.token

/-- The next token is a sign. -/
def atSign (sign : String) (ts : List Lexeme) : Reading Bool :=
  (· == some (.sign sign)) <$> next? ts

/-- The next token is one of some signs. -/
def atSigns (signs : List String) (ts : List Lexeme) : Reading Bool :=
  (fun t => signs.any fun s => t == some (.sign s)) <$> next? ts

/-- The next token is a keyword. -/
def atWord (word : String) (ts : List Lexeme) : Reading Bool :=
  (· == some (.keyword word)) <$> next? ts

/-- The tokens after a sign that has to be next. -/
def pass (sign : String) (ts : List Lexeme) : Reading (List Lexeme) := do
  if ← atSign sign ts then return ts.tail else mismatch

/-- The tokens after a keyword that has to be next. -/
def passWord (word : String) (ts : List Lexeme) : Reading (List Lexeme) := do
  if ← atWord word ts then return ts.tail else mismatch

/-- The tokens after a sign that may be next. -/
def skip (sign : String) (ts : List Lexeme) : Reading (List Lexeme) := do
  if ← atSign sign ts then return ts.tail else return ts

/-- The name that is next. -/
def nextName? (ts : List Lexeme) : Reading (Option String) := do
  match ← next? ts with
  | some (.name word) => return some word
  | _ => return none

/-- The number of brackets open at the last of the tokens that were read between two points. -/
def lastDepth (before after : List Lexeme) : Nat :=
  ((before.take (before.length - after.length)).getLast?.map Lexeme.depth).getD 0

/-! ### Operators -/

/-- How tightly an operator between two operands binds. -/
def strength? : Token → Option Nat
  | .sign s =>
    if s = "|" then some 1
    else if s = "^" then some 2
    else if s = "&" then some 3
    else if s = "<<" || s = ">>" then some 4
    else if s = "+" || s = "-" then some 5
    else if ["*", "/", "//", "%", "@"].contains s then some 6
    else none
  | _ => none

/-- The result of an operator. -/
def combine (sign : Token) (left right : Expression) : Expression :=
  if sign = .sign "+" || sign = .sign "-" then .sum left right else .operation

/-- The comparison that comes next, whether it is a test for membership, and the tokens
after it. -/
def comparison? (ts : List Lexeme) : Reading (Option (Bool × List Lexeme)) := do
  match ← next? ts with
  | some (.sign s) =>
    return if ["==", "!=", "<=", "<", ">=", ">"].contains s then some (false, ts.tail) else none
  | some (.keyword w) =>
    if w = "in" then return some (true, ts.tail)
    else if w = "is" then
      return some (false, if ← atWord "not" ts.tail then ts.tail.tail else ts.tail)
    else if w = "not" then
      return if ← atWord "in" ts.tail then some (false, ts.tail.tail) else none
    else return none
  | _ => return none

/-! ### Quoted texts and numbers -/

/-- The quoted texts that stand one after the other, and the tokens after them. -/
def takeTexts : List Lexeme → List TextForm × List Lexeme
  | l :: ts =>
    match l.token with
    | .text t => ((t :: (takeTexts ts).1), (takeTexts ts).2)
    | _ => ([], l :: ts)
  | [] => ([], [])

/-- The text that quoted texts one after the other make. -/
def joinTexts (ts : List TextForm) : Reading Expression :=
  if ts.any (·.octets) && ts.any (!·.octets) then
    refuse "cannot mix bytes and nonbytes literals"
  else
    match ts.findSome? textFault? with
    | some message => refuse message
    | none => pure (if ts.any (·.template) then .template else .text)

/-- A number; integers may have no more digits than can be read. -/
def number (form : NumberForm) : Reading Expression :=
  match form with
  | .integer digits =>
    if digitLimit < digits then
      refuse ((NumeralFault.tooLongToRead digits).message ++ " - Consider hexadecimal for huge "
        ++ "integer literals to avoid decimal conversion limits.")
    else pure (.number form)
  | form => pure (.number form)

/-! ### Messages -/

/-- The message about two expressions side by side. -/
def commaMessage : String := "invalid syntax. Perhaps you forgot a comma?"

/-- The message about an equals sign after a name. -/
def equalsMessage : String := "invalid syntax. Maybe you meant '==' or ':=' instead of '='?"

/-- The message about an equals sign after another expression. -/
def assignMessage (e : Expression) : String :=
  s!"cannot assign to {e.describe} here. Maybe you meant '==' instead of '='?"

/-- The message about a statement that is written like a call without parentheses. -/
def statementMessage (word : String) : String :=
  s!"Missing parentheses in call to '{word}'. Did you mean {word}(...)?"

/-- The message about a loop among arguments. -/
def loopMessage : String := "Generator expression must be parenthesized"

/-- The message about a colon without a value. -/
def valueMessage : String := "expression expected after dictionary key and ':'"

/-- The message about a starred value. -/
def starredMessage : String := "cannot use a starred expression in a dictionary value"

/-! ### Arguments -/

/-- The arguments of a call so far. -/
structure Arguments where
  /-- The number of arguments without names. -/
  positional : Nat
  /-- There are arguments with names. -/
  named : Bool
  /-- Arguments with names are unpacked. -/
  unpacked : Bool
  deriving Inhabited

/-! ### Parameters -/

/-- Which parameters are meant. -/
inductive ParameterForm where
  /-- Those without a default. -/
  | plain
  /-- Those with one. -/
  | withDefault
  /-- Both. -/
  | any
  deriving DecidableEq, Repr, Inhabited

/-- The tokens after a slash among parameters, if it is next. -/
def slash? (ts : List Lexeme) : Reading (Option (List Lexeme)) := do
  if ← atSign "/" ts then
    if ← atSign "," ts.tail then return some ts.tail.tail
    else if ← atSign ":" ts.tail then return some ts.tail
    else return none
  else return none

/-- Names with commas between them and perhaps one after them, and then a closing bracket. -/
def closedNames : Nat → List Lexeme → Reading Bool
  | 0, _ => pure false
  | fuel + 1, ts => do
    match ← nextName? ts with
    | none => return false
    | some _ =>
      if ← atSign ")" ts.tail then return true
      else if ← atSign "," ts.tail then
        if ← atSign ")" ts.tail.tail then return true else closedNames fuel ts.tail.tail
      else return false

/-- Names in parentheses are next. -/
def inParentheses (ts : List Lexeme) : Reading Bool := do
  if ← atSign "(" ts then closedNames ts.length ts.tail else return false

/-- Refuses what may not come after two stars. -/
def checkDoubleStar (ts : List Lexeme) : Reading Unit := do
  match ← nextName? ts with
  | none => pure ()
  | some _ =>
    if ← atSign "=" ts.tail then refuse "var-keyword argument cannot have default value"
    if ← atSign "," ts.tail then
      let isName := (← nextName? ts.tail.tail).isSome
      if isName || (← atSigns ["*", "**", "/"] ts.tail.tail) then
        refuse "arguments cannot follow var-keyword argument"

/-! ### The reader -/

mutual

/-- An expression. -/
def expression (strict : Bool) : Nat → List Lexeme → Reading (Rest Expression)
  | 0, _ => mismatch
  | fuel + 1, ts => remember .expression ts do
    let first ← attempt (disjunction strict fuel ts)
    if strict then
      checkNeighbour fuel ts first
      checkStatement fuel ts
    match first with
    | none => function strict fuel ts
    | some (e, rest) =>
      if ← atWord "if" rest then
        match ← attempt (alternative strict fuel rest.tail) with
        | some (_, rest) => return (.conditional, rest)
        | none => return (e, rest)
      else return (e, rest)

/-- Refuses two expressions side by side within brackets, and conditions without `else`. -/
def checkNeighbour : Nat → List Lexeme → Option (Expression × List Lexeme) →
    Reading Unit
  | 0, _, _ => mismatch
  | fuel + 1, ts, first => do
    let exempt ← match ← nextName? ts with
      | none => pure false
      | some word =>
        match ← next? ts.tail with
        | some (.text _) => pure true
        | _ => pure (mayBeSoft word)
    match first with
    | none => return ()
    | some (e, rest) =>
      if !exempt then
        match ← attempt (plainExpression fuel rest) with
        | some (_, after) =>
          if !e.isStatementName && lastDepth rest after ≠ 0 then refuse commaMessage
        | none => pure ()
      if ← atWord "if" rest then
        match ← attempt (disjunction true fuel rest.tail) with
        | some (_, after) =>
          if !((← atWord "else" after) || (← atSign ":" after)) then
            refuse "expected 'else' after 'if' expression"
        | none => pure ()

/-- An expression that is read plainly, with no eye on what is known of expressions here. -/
def plainExpression : Nat → List Lexeme → Reading (Rest Expression)
  | 0, _ => mismatch
  | fuel + 1, ts => do
    match ← attempt (disjunction false fuel ts) with
    | none => function false fuel ts
    | some (e, rest) =>
      if ← atWord "if" rest then
        match ← attempt (alternative false fuel rest.tail) with
        | some (_, rest) => return (.conditional, rest)
        | none => return (e, rest)
      else return (e, rest)

/-- Refuses statements that are written like calls without parentheses. -/
def checkStatement : Nat → List Lexeme → Reading Unit
  | 0, _ => mismatch
  | fuel + 1, ts => do
    match ← nextName? ts with
    | none => return ()
    | some word =>
      if !(← atSign "(" ts.tail) then
        match ← attempt (expressions true true fuel ts.tail) with
        | some _ => if isStatementName (.name word) then refuse (statementMessage word)
        | none => pure ()

/-- The condition and the second choice of a conditional, after `if`. -/
def alternative (strict : Bool) : Nat → List Lexeme → Reading (Rest Unit)
  | 0, _ => mismatch
  | fuel + 1, ts => do
    let (_, ts) ← disjunction strict fuel ts
    let ts ← passWord "else" ts
    let (_, ts) ← expression strict fuel ts
    return ((), ts)

/-- Expressions with commas between them, which may be starred. -/
def expressions (strict starred : Bool) : Nat → List Lexeme → Reading (Rest Expression)
  | 0, _ => mismatch
  | fuel + 1, ts => do
    let item (ts : List Lexeme) : Reading (Rest Expression) := do
      let isStarred ← if starred then atSign "*" ts else pure false
      if isStarred then
        let (e, ts) ← operation strict 1 fuel ts.tail
        return (.starred e, ts)
      else expression strict fuel ts
    let (e, ts) ← item ts
    if ← atSign "," ts then
      match ← attempt (expressions strict starred fuel ts.tail) with
      | some (.tuple es, ts) => return (.tuple (e :: es), ts)
      | some (e', ts) => return (.tuple [e, e'], ts)
      | none => return (.tuple [e], ts.tail)
    else return (e, ts)

/-- A function of no name. -/
def function (strict : Bool) : Nat → List Lexeme → Reading (Rest Expression)
  | 0, _ => mismatch
  | fuel + 1, ts => do
    let ts ← passWord "lambda" ts
    if strict then checkParameters fuel ts
    let ts := ((← attempt (parameters strict fuel ts)).map Prod.snd).getD ts
    let ts ← pass ":" ts
    let (_, ts) ← expression strict fuel ts
    return (.lambda, ts)

/-- The parameters of a function of no name. -/
def parameters (strict : Bool) : Nat → List Lexeme → Reading (Rest Unit)
  | 0, _ => mismatch
  | fuel + 1, ts => do
    let (plain, rest) ← manyParameters strict .plain fuel ts
    let (defaults, rest) ← manyParameters strict .withDefault fuel rest
    if plain + defaults = 0 then starParameters strict fuel ts
    else
      let rest ← match ← slash? rest with
        | none => pure rest
        | some rest =>
          let (_, rest) ←
            if defaults = 0 then manyParameters strict .plain fuel rest else pure (0, rest)
          Prod.snd <$> manyParameters strict .withDefault fuel rest
      let found ← attempt (starParameters strict fuel rest)
      return ((), (found.map Prod.snd).getD rest)

/-- A parameter with the comma after it, or before a colon. -/
def parameter (strict : Bool) (form : ParameterForm) : Nat → List Lexeme → Reading (Rest Unit)
  | 0, _ => mismatch
  | fuel + 1, ts => do
    match ← nextName? ts with
    | none => mismatch
    | some _ =>
      let ts := ts.tail
      let hasDefault ← atSign "=" ts
      if form = .plain ∧ hasDefault ∨ form = .withDefault ∧ ¬hasDefault then mismatch
      let ts ← if hasDefault then parameterDefault strict fuel ts.tail else pure ts
      if ← atSign "," ts then return ((), ts.tail)
      else if ← atSign ":" ts then return ((), ts)
      else mismatch

/-- The tokens after the default of a parameter. -/
def parameterDefault (strict : Bool) : Nat → List Lexeme → Reading (List Lexeme)
  | 0, _ => mismatch
  | fuel + 1, ts => do
    match ← attempt (expression strict fuel ts) with
    | some (_, rest) => return rest
    | none =>
      if strict then
        if ← atSigns [")", ","] ts then refuse "expected default value expression"
      mismatch

/-- As many parameters as there are; their number. -/
def manyParameters (strict : Bool) (form : ParameterForm) :
    Nat → List Lexeme → Reading (Rest Nat)
  | 0, _ => mismatch
  | fuel + 1, ts => do
    match ← attempt (parameter strict form fuel ts) with
    | none => return (0, ts)
    | some (_, rest) =>
      let (n, rest) ← manyParameters strict form fuel rest
      return (n + 1, rest)

/-- A star with a parameter or a comma after it. -/
def star (strict : Bool) : Nat → List Lexeme → Reading (Rest Bool)
  | 0, _ => mismatch
  | fuel + 1, ts => do
    let ts ← pass "*" ts
    if ← atSign "," ts then return (false, ts.tail)
    else
      let (_, ts) ← parameter strict .plain fuel ts
      return (true, ts)

/-- The parameters from a star on. -/
def starParameters (strict : Bool) : Nat → List Lexeme → Reading (Rest Unit)
  | 0, _ => mismatch
  | fuel + 1, ts => do
    if strict then checkStar fuel ts
    match ← attempt (star strict fuel ts) with
    | none => doubleStar strict fuel ts
    | some (isNamed, rest) =>
      let (n, rest) ← manyParameters strict .any fuel rest
      if !isNamed ∧ n = 0 then mismatch
      let found ← attempt (doubleStar strict fuel rest)
      return ((), (found.map Prod.snd).getD rest)

/-- The parameter that takes all other named arguments. -/
def doubleStar (strict : Bool) : Nat → List Lexeme → Reading (Rest Unit)
  | 0, _ => mismatch
  | fuel + 1, ts => do
    let ts ← pass "**" ts
    if strict then checkDoubleStar ts
    parameter strict .plain fuel ts

/-- The parameters up to a slash, the slash and the comma after it. -/
def slashed : Nat → List Lexeme → Reading (Rest Unit)
  | 0, _ => mismatch
  | fuel + 1, ts => do
    let (plain, rest) ← manyParameters true .plain fuel ts
    let (defaults, rest) ← manyParameters true .withDefault fuel rest
    match ← slash? rest with
    | some rest => if plain + defaults = 0 then mismatch else return ((), rest)
    | none => mismatch

/-- Refuses slips in the parameters of a function of no name. -/
def checkParameters : Nat → List Lexeme → Reading Unit
  | 0, _ => mismatch
  | fuel + 1, ts => do
    let (_, afterPlain) ← manyParameters true .plain fuel ts
    let (n, afterDefaults) ← manyParameters true .withDefault fuel afterPlain
    if 0 < n then
      let rest := (← slash? afterDefaults).getD afterDefaults
      match ← attempt (parameter true .plain fuel rest) with
      | some _ => refuse "non-default argument follows default argument"
      | none => pure ()
    if ← inParentheses afterPlain then
      refuse "Lambda expression parameters cannot be parenthesized"
    if ← atSign "/" ts then
      if ← atSign "," ts.tail then refuse "at least one argument must precede /"
    let afterSlash := (← attempt (slashed fuel ts)).map Prod.snd
    let (n, rest) ← manyParameters true .any fuel (afterSlash.getD ts)
    if afterSlash.isSome then
      if ← atSign "/" rest then refuse "/ may appear only once"
    match ← attempt (star true fuel rest) with
    | some (_, afterStar) =>
      let (_, afterStar) ← manyParameters true .any fuel afterStar
      if ← atSign "/" afterStar then refuse "/ must be ahead of *"
    | none => pure ()
    if afterSlash.isNone ∧ 0 < n then
      if ← atSign "/" rest then
        if ← atSign "*" rest.tail then refuse "expected comma between / and *"

/-- Refuses slips in the parameters from a star on. -/
def checkStar : Nat → List Lexeme → Reading Unit
  | 0, _ => mismatch
  | fuel + 1, ts => do
    if ← atSign "*" ts then
      let isBare ← if ← atSign "," ts.tail then atSigns [":", "**"] ts.tail.tail
        else atSign ":" ts.tail
      if isBare then refuse "named arguments must follow bare *"
      match ← nextName? ts.tail with
      | some _ =>
        if ← atSign "=" ts.tail.tail then
          refuse "var-positional argument cannot have default value"
      | none => pure ()
      match ← attempt (star true fuel ts) with
      | none => pure ()
      | some (_, rest) =>
        let (_, rest) ← manyParameters true .any fuel rest
        match ← attempt (star true fuel rest) with
        | some _ => refuse "* argument may appear only once"
        | none => pure ()

/-- Conjunctions with `or` between them. -/
def disjunction (strict : Bool) : Nat → List Lexeme → Reading (Rest Expression)
  | 0, _ => mismatch
  | fuel + 1, ts => remember .disjunction ts do
    let (e, ts) ← conjunction strict fuel ts
    if ← atWord "or" ts then
      match ← attempt (disjunction strict fuel ts.tail) with
      | some (_, ts) => return (.operation, ts)
      | none => return (e, ts)
    else return (e, ts)

/-- Negations with `and` between them. -/
def conjunction (strict : Bool) : Nat → List Lexeme → Reading (Rest Expression)
  | 0, _ => mismatch
  | fuel + 1, ts => remember .conjunction ts do
    let (e, ts) ← negation strict fuel ts
    if ← atWord "and" ts then
      match ← attempt (conjunction strict fuel ts.tail) with
      | some (_, ts) => return (.operation, ts)
      | none => return (e, ts)
    else return (e, ts)

/-- A comparison, perhaps negated. -/
def negation (strict : Bool) : Nat → List Lexeme → Reading (Rest Expression)
  | 0, _ => mismatch
  | fuel + 1, ts => remember .negation ts do
    if ← atWord "not" ts then
      let (_, ts) ← negation strict fuel ts.tail
      return (.operation, ts)
    else
      let (e, ts) ← operation strict 1 fuel ts
      comparisons strict fuel e ts

/-- The comparisons after an operand. -/
def comparisons (strict : Bool) : Nat → Expression → List Lexeme → Reading (Rest Expression)
  | 0, _, _ => mismatch
  | fuel + 1, e, ts => do
    match ← comparison? ts with
    | none => return (e, ts)
    | some (isMembership, rest) =>
      match ← attempt (operation strict 1 fuel rest) with
      | none => return (e, ts)
      | some (_, rest) =>
        let first := match e with
          | .comparison _ _ => e
          | e => .comparison e isMembership
        comparisons strict fuel first rest

/-- Operands with operators between them that bind at least so tightly. -/
def operation (strict : Bool) (strength : Nat) : Nat → List Lexeme → Reading (Rest Expression)
  | 0, _ => mismatch
  | fuel + 1, ts =>
    let reading : Reading (Rest Expression) := do
      let (e, ts) ← operand strict fuel ts
      operators strict strength fuel e ts
    if strength = 1 then remember .operation ts reading else reading

/-- The operators after an operand. -/
def operators (strict : Bool) (strength : Nat) : Nat → Expression → List Lexeme →
    Reading (Rest Expression)
  | 0, _, _ => mismatch
  | fuel + 1, e, ts => do
    match ← next? ts with
    | none => return (e, ts)
    | some sign =>
      match strength? sign with
      | none => return (e, ts)
      | some s =>
        if s < strength then return (e, ts)
        else
          match ← attempt (operation strict (s + 1) fuel ts.tail) with
          | none => return (e, ts)
          | some (right, rest) => operators strict strength fuel (combine sign e right) rest

/-- An operand, perhaps with a sign or a power. -/
def operand (strict : Bool) : Nat → List Lexeme → Reading (Rest Expression)
  | 0, _ => mismatch
  | fuel + 1, ts => remember .operand ts do
    if ← atSigns ["+", "-"] ts then
      let (e, ts) ← operand strict fuel ts.tail
      return (.signed e, ts)
    else if ← atSign "~" ts then
      let (_, ts) ← operand strict fuel ts.tail
      return (.operation, ts)
    else
      let awaits ← atWord "await" ts
      let (e, ts) ← atom strict fuel (if awaits then ts.tail else ts)
      let (e, ts) ← trailers strict fuel e ts
      let e := if awaits then .awaited else e
      if ← atSign "**" ts then
        match ← attempt (operand strict fuel ts.tail) with
        | some (_, ts) => return (.operation, ts)
        | none => return (e, ts)
      else return (e, ts)

/-- The attributes and calls after an atom.  Braces after it belong to nothing, but slips in
them have messages of their own. -/
def trailers (strict : Bool) : Nat → Expression → List Lexeme → Reading (Rest Expression)
  | 0, _, _ => mismatch
  | fuel + 1, e, ts => do
    if ← atSign "." ts then
      match ← nextName? ts.tail with
      | some _ => trailers strict fuel .attribute ts.tail.tail
      | none => return (e, ts)
    else if ← atSign "(" ts then
      match ← attempt (loopCall strict fuel ts.tail) with
      | some (_, rest) => trailers strict fuel (.call e false) rest
      | none =>
        match ← attempt (arguments strict fuel ts.tail) with
        | some (bare, rest) => trailers strict fuel (.call e bare) rest
        | none => return (e, ts)
    else
      if strict then
        if ← atSign "\x7b" ts then checkSetLoop fuel ts.tail
      return (e, ts)

/-- A loop in parentheses, after the opening one. -/
def loopCall (strict : Bool) : Nat → List Lexeme → Reading (Rest Unit)
  | 0, _ => mismatch
  | fuel + 1, ts => do
    match ← attempt (assignable strict fuel ts) with
    | some (_, rest) =>
      match ← attempt (loops strict fuel rest) with
      | some (_, rest) => if ← atSign ")" rest then return ((), rest.tail)
      | none => pure ()
    | none => pure ()
    if strict then checkUnpackedLoop fuel ts
    mismatch

/-- An assignment, or an expression that is not followed by one. -/
def assignable (strict : Bool) : Nat → List Lexeme → Reading (Rest Expression)
  | 0, _ => mismatch
  | fuel + 1, ts => do
    let isAssignment ← match ← nextName? ts with
      | some _ => atSign ":=" ts.tail
      | none => pure false
    if isAssignment then
      let (_, ts) ← expression strict fuel ts.tail.tail
      return (.assignment, ts)
    else
      let (e, ts) ← expression strict fuel ts
      if ← atSign ":=" ts then mismatch else return (e, ts)

/-- An expression where an assignment may stand; a slip with an equals sign is refused. -/
def item (strict : Bool) : Nat → List Lexeme → Reading (Rest Expression)
  | 0, _ => mismatch
  | fuel + 1, ts => do
    let isAssignment ← match ← nextName? ts with
      | some _ => atSign ":=" ts.tail
      | none => pure false
    if isAssignment then assignable strict fuel ts
    else
      if strict then checkEquals fuel ts
      assignable strict fuel ts

/-- Refuses an equals sign, or an assignment to something else than a name. -/
def checkEquals : Nat → List Lexeme → Reading Unit
  | 0, _ => mismatch
  | fuel + 1, ts => do
    match ← attempt (expression true fuel ts) with
    | some (e, rest) =>
      if ← atSign ":=" rest then
        match ← attempt (expression true fuel rest.tail) with
        | some _ => refuse s!"cannot use assignment expressions with {e.describe}"
        | none => pure ()
    | none => pure ()
    match ← nextName? ts with
    | some _ =>
      if ← atSign "=" ts.tail then
        match ← attempt (operation true 1 fuel ts.tail.tail) with
        | some (_, rest) => if !(← atSigns ["=", ":="] rest) then refuse equalsMessage
        | none => pure ()
    | none => pure ()
    let exempt ← match ← next? ts with
      | some (.keyword word) => pure (["True", "None", "False"].contains word)
      | some (.sign "(") =>
        let isGroup ← match ← attempt (starItem true fuel ts.tail) with
          | some (_, rest) => atSign ")" rest
          | none => pure false
        match ← attempt (atom true fuel ts) with
        | some (.tuple _, _) => pure !isGroup
        | some (.loop _, _) => pure !isGroup
        | _ => pure false
      | _ => pure false
    if !exempt then
      match ← attempt (operation true 1 fuel ts) with
      | some (e, rest) =>
        if ← atSign "=" rest then
          match ← attempt (operation true 1 fuel rest.tail) with
          | some (_, rest) => if !(← atSigns ["=", ":="] rest) then refuse (assignMessage e)
          | none => pure ()
      | none => pure ()

/-- An item, or an expression with a star. -/
def starItem (strict : Bool) : Nat → List Lexeme → Reading (Rest Expression)
  | 0, _ => mismatch
  | fuel + 1, ts => do
    if ← atSign "*" ts then
      let (e, ts) ← operation strict 1 fuel ts.tail
      return (.starred e, ts)
    else item strict fuel ts

/-- Items with commas between them. -/
def starItems (strict : Bool) : Nat → List Lexeme → Reading (Rest (List Expression))
  | 0, _ => mismatch
  | fuel + 1, ts => do
    let (e, ts) ← starItem strict fuel ts
    if ← atSign "," ts then
      match ← attempt (starItems strict fuel ts.tail) with
      | some (es, ts) => return (e :: es, ts)
      | none => return ([e], ts.tail)
    else return ([e], ts)

/-- What is unpacked by a star. -/
def unpacked (strict : Bool) : Nat → List Lexeme → Reading (Rest Expression)
  | 0, _ => mismatch
  | fuel + 1, ts => do
    let ts ← pass "*" ts
    match ← attempt (expression strict fuel ts) with
    | some (e, ts) => return (.starred e, ts)
    | none => refuse "Invalid star expression"

/-- Refuses a loop over something unpacked. -/
def checkUnpackedLoop : Nat → List Lexeme → Reading Unit
  | 0, _ => mismatch
  | fuel + 1, ts => do
    match ← attempt (unpacked true fuel ts) with
    | some (_, rest) =>
      match ← attempt (loops true fuel rest) with
      | some _ => refuse "iterable unpacking cannot be used in comprehension"
      | none => pure ()
    | none => pure ()

/-- The loops of an expression. -/
def loops (strict : Bool) : Nat → List Lexeme → Reading (Rest Unit)
  | 0, _ => mismatch
  | fuel + 1, ts => do
    let ts ← loop strict fuel ts
    match ← attempt (loops strict fuel ts) with
    | some r => return r
    | none => return ((), ts)

/-- A loop with its conditions. -/
def loop (strict : Bool) : Nat → List Lexeme → Reading (List Lexeme)
  | 0, _ => mismatch
  | fuel + 1, ts => do
    let ts := if ← atWord "async" ts then ts.tail else ts
    let ts ← passWord "for" ts
    match ← attempt (targets strict fuel ts) with
    | some (_, rest) =>
      if ← atWord "in" rest then
        let (_, rest) ← disjunction strict fuel rest.tail
        conditions strict fuel rest
      else
        if strict then checkTarget fuel ts
        mismatch
    | none =>
      if strict then checkTarget fuel ts
      mismatch

/-- Refuses a loop whose target cannot be one. -/
def checkTarget : Nat → List Lexeme → Reading Unit
  | 0, _ => mismatch
  | fuel + 1, ts => do
    match ← attempt (expressions true true fuel ts) with
    | some (e, _) =>
      match e.badTarget? with
      | some bad => refuse s!"cannot assign to {bad.describe}"
      | none => pure ()
    | none => pure ()

/-- The targets of a loop. -/
def targets (strict : Bool) : Nat → List Lexeme → Reading (Rest Unit)
  | 0, _ => mismatch
  | fuel + 1, ts => do
    let ts := if ← atSign "*" ts then ts.tail else ts
    let (e, ts) ← operation strict 1 fuel ts
    if e.badTarget?.isSome then mismatch
    if ← atSign "," ts then
      match ← attempt (targets strict fuel ts.tail) with
      | some r => return r
      | none => return ((), ts.tail)
    else return ((), ts)

/-- The conditions of a loop. -/
def conditions (strict : Bool) : Nat → List Lexeme → Reading (List Lexeme)
  | 0, _ => mismatch
  | fuel + 1, ts => do
    if ← atWord "if" ts then
      match ← attempt (disjunction strict fuel ts.tail) with
      | some (_, ts) => conditions strict fuel ts
      | none => return ts
    else return ts

/-- A name, a constant, a number, quoted texts, or something in brackets. -/
def atom (strict : Bool) : Nat → List Lexeme → Reading (Rest Expression)
  | 0, _ => mismatch
  | fuel + 1, ts => do
    match ← next? ts with
    | some (.name word) => return (.name word, ts.tail)
    | some (.keyword word) =>
      if ["True", "False", "None"].contains word then return (.constant word, ts.tail)
      else mismatch
    | some (.number form) => return (← number form, ts.tail)
    | some (.text _) =>
      let (forms, rest) := takeTexts ts
      let _ ← next? rest
      return (← joinTexts forms, rest)
    | some (.sign "...") => return (.dots, ts.tail)
    | some (.sign "(") => parentheses strict fuel ts.tail
    | some (.sign "\x7b") => braces strict fuel ts.tail
    | _ => mismatch

/-- What stands in parentheses, after the opening one. -/
def parentheses (strict : Bool) : Nat → List Lexeme → Reading (Rest Expression)
  | 0, _ => mismatch
  | fuel + 1, ts => do
    if ← atSign ")" ts then return (.tuple [], ts.tail)
    let first ← attempt (starItem strict fuel ts)
    match first with
    | some (e, rest) =>
      if ← atSign "," rest then
        let (es, rest) ← match ← attempt (starItems strict fuel rest.tail) with
          | some r => pure r
          | none => pure ([], rest.tail)
        if ← atSign ")" rest then return (.tuple (e :: es), rest.tail)
      else
        match e with
        | .starred _ => pure ()
        | e => if ← atSign ")" rest then return (e, rest.tail)
    | none => pure ()
    if ← atWord "yield" ts then
      match ← attempt (yielded strict fuel ts.tail) with
      | some (_, rest) => if ← atSign ")" rest then return (.yielded, rest.tail)
      | none => pure ()
    if strict then checkStarGroup fuel ts
    let (_, rest) ← loopCall strict fuel ts
    return (.loop "generator expression", rest)

/-- Refuses a single expression in parentheses that is unpacked. -/
def checkStarGroup : Nat → List Lexeme → Reading Unit
  | 0, _ => mismatch
  | fuel + 1, ts => do
    match ← attempt (unpacked true fuel ts) with
    | some (_, rest) =>
      if ← atSign ")" rest then refuse "cannot use starred expression here"
    | none => pure ()
    if ← atSign "**" ts then
      match ← attempt (expression true fuel ts.tail) with
      | some (_, rest) =>
        if ← atSign ")" rest then refuse "cannot use double starred expression here"
      | none => pure ()

/-- What is yielded, after the keyword. -/
def yielded (strict : Bool) : Nat → List Lexeme → Reading (Rest Unit)
  | 0, _ => mismatch
  | fuel + 1, ts => do
    if ← atWord "from" ts then
      let (_, ts) ← expression strict fuel ts.tail
      return ((), ts)
    else
      match ← attempt (expressions strict true fuel ts) with
      | some (_, ts) => return ((), ts)
      | none => return ((), ts)

/-- What stands in braces, after the opening one. -/
def braces (strict : Bool) : Nat → List Lexeme → Reading (Rest Expression)
  | 0, _ => mismatch
  | fuel + 1, ts => do
    if ← atSign "\x7d" ts then return (.dictionary [], ts.tail)
    match ← attempt (pairs strict fuel ts) with
    | some (ps, rest) =>
      let rest ← skip "," rest
      if ← atSign "\x7d" rest then return (.dictionary ps, rest.tail)
    | none => pure ()
    checkPairs strict fuel ts
    match ← attempt (starItems strict fuel ts) with
    | some (es, rest) => if ← atSign "\x7d" rest then return (.set es, rest.tail)
    | none => pure ()
    match ← attempt (keyed strict fuel ts) with
    | some (_, rest) =>
      match ← attempt (loops strict fuel rest) with
      | some (_, rest) =>
        if ← atSign "\x7d" rest then return (.loop "dict comprehension", rest.tail)
      | none => pure ()
    | none => pure ()
    if strict then checkUnpackedPairs fuel ts
    match ← attempt (item strict fuel ts) with
    | some (_, rest) =>
      match ← attempt (loops strict fuel rest) with
      | some (_, rest) =>
        if ← atSign "\x7d" rest then return (.loop "set comprehension", rest.tail)
      | none => pure ()
    | none => pure ()
    if strict then checkSetLoop fuel ts
    mismatch

/-- Refuses a loop over pairs that are unpacked. -/
def checkUnpackedPairs : Nat → List Lexeme → Reading Unit
  | 0, _ => mismatch
  | fuel + 1, ts => do
    if ← atSign "**" ts then
      match ← attempt (operation true 1 fuel ts.tail) with
      | some (_, rest) =>
        match ← attempt (loops true fuel rest) with
        | some (_, rest) =>
          if ← atSign "\x7d" rest then refuse "dict unpacking cannot be used in dict comprehension"
        | none => pure ()
      | none => pure ()

/-- Refuses a loop in braces over what is unpacked or has no parentheses. -/
def checkSetLoop : Nat → List Lexeme → Reading Unit
  | 0, _ => mismatch
  | fuel + 1, ts => do
    checkUnpackedLoop fuel ts
    match ← attempt (starItem true fuel ts) with
    | some (_, rest) =>
      if ← atSign "," rest then
        let rest ← match ← attempt (starItems true fuel rest.tail) with
          | some (_, rest) => pure rest
          | none => pure rest.tail
        match ← attempt (loops true fuel rest) with
        | some _ => refuse "did you forget parentheses around the comprehension target?"
        | none => pure ()
    | none => pure ()

/-- A key with its value. -/
def keyed (strict : Bool) : Nat → List Lexeme → Reading (Rest (Option Expression × Expression))
  | 0, _ => mismatch
  | fuel + 1, ts => do
    let (key, ts) ← expression strict fuel ts
    let ts ← pass ":" ts
    let (value, ts) ← expression strict fuel ts
    return ((some key, value), ts)

/-- A key with its value, or pairs that are unpacked. -/
def pair (strict : Bool) : Nat → List Lexeme → Reading (Rest (Option Expression × Expression))
  | 0, _ => mismatch
  | fuel + 1, ts => do
    if ← atSign "**" ts then
      let (e, ts) ← operation strict 1 fuel ts.tail
      return ((none, e), ts)
    else keyed strict fuel ts

/-- Pairs with commas between them. -/
def pairs (strict : Bool) :
    Nat → List Lexeme → Reading (Rest (List (Option Expression × Expression)))
  | 0, _ => mismatch
  | fuel + 1, ts => do
    let (p, ts) ← pair strict fuel ts
    if ← atSign "," ts then
      match ← attempt (pairs strict fuel ts.tail) with
      | some (ps, ts) => return (p :: ps, ts)
      | none => return ([p], ts)
    else return ([p], ts)

/-- Refuses slips in pairs, in a first reading as well. -/
def checkPairs (strict : Bool) : Nat → List Lexeme → Reading Unit
  | 0, _ => mismatch
  | fuel + 1, ts => do
    match ← attempt (pairs strict fuel ts) with
    | some (_, rest) =>
      if ← atSign "," rest then
        match ← attempt (expression strict fuel rest.tail) with
        | some (_, after) =>
          if !(← atSign ":" after) then refuse "':' expected after dictionary key"
          checkValue strict fuel after.tail
        | none => pure ()
    | none => pure ()
    match ← attempt (expression strict fuel ts) with
    | some (_, after) => if ← atSign ":" after then checkValue strict fuel after.tail
    | none => pure ()

/-- Refuses a value that is starred or missing, after a colon. -/
def checkValue (strict : Bool) : Nat → List Lexeme → Reading Unit
  | 0, _ => mismatch
  | fuel + 1, ts => do
    if ← atSign "*" ts then
      match ← attempt (operation strict 1 fuel ts.tail) with
      | some _ => refuse starredMessage
      | none => pure ()
    if ← atSigns ["\x7d", ","] ts then refuse valueMessage

/-- The arguments of a call after its opening parenthesis, and whether there are none. -/
def arguments (strict : Bool) : Nat → List Lexeme → Reading (Rest Bool)
  | 0, _ => mismatch
  | fuel + 1, ts => do
    if ← atSign ")" ts then return (true, ts.tail)
    match ← attempt (argumentList strict fuel ts) with
    | some (_, rest) =>
      let rest ← skip "," rest
      if ← atSign ")" rest then return (false, rest.tail)
    | none => pure ()
    if strict then checkArguments fuel ts
    mismatch

/-- Arguments without names, then those with names. -/
def argumentList (strict : Bool) : Nat → List Lexeme → Reading (Rest Arguments)
  | 0, _ => mismatch
  | fuel + 1, ts => do
    match ← attempt (positionals strict fuel ts) with
    | some (n, rest) =>
      if ← atSign "," rest then
        match ← attempt (namedArguments strict false fuel rest.tail) with
        | some (a, rest) => return (⟨n + a.positional, a.named, a.unpacked⟩, rest)
        | none => return (⟨n, false, false⟩, rest)
      else return (⟨n, false, false⟩, rest)
    | none => namedArguments strict false fuel ts

/-- Arguments without names, with commas between them. -/
def positionals (strict : Bool) : Nat → List Lexeme → Reading (Rest Nat)
  | 0, _ => mismatch
  | fuel + 1, ts => do
    let (_, ts) ← positional strict fuel ts
    if ← atSign "," ts then
      match ← attempt (positionals strict fuel ts.tail) with
      | some (n, ts) => return (n + 1, ts)
      | none => return (1, ts)
    else return (1, ts)

/-- An argument without a name. -/
def positional (strict : Bool) : Nat → List Lexeme → Reading (Rest Expression)
  | 0, _ => mismatch
  | fuel + 1, ts => do
    if ← atSign "*" ts then unpacked strict fuel ts
    else
      let (e, ts) ← assignable strict fuel ts
      if ← atSign "=" ts then mismatch else return (e, ts)

/-- Arguments with names and unpacked ones, with commas between them; `late` holds after the
first with two stars. -/
def namedArguments (strict late : Bool) : Nat → List Lexeme → Reading (Rest Arguments)
  | 0, _ => mismatch
  | fuel + 1, ts => do
    let (a, ts) ← namedArgument strict late fuel ts
    if ← atSign "," ts then
      match ← attempt (namedArguments strict (late || a.unpacked) fuel ts.tail) with
      | some (more, ts) =>
        return (⟨a.positional + more.positional, a.named || more.named,
          a.unpacked || more.unpacked⟩, ts)
      | none => return (a, ts)
    else return (a, ts)

/-- An argument with a name, or an unpacked one. -/
def namedArgument (strict late : Bool) : Nat → List Lexeme → Reading (Rest Arguments)
  | 0, _ => mismatch
  | fuel + 1, ts => do
    if strict then checkNamed fuel ts
    match ← nextName? ts with
    | some _ =>
      let ts ← pass "=" ts.tail
      let (_, ts) ← expression strict fuel ts
      return (⟨0, true, false⟩, ts)
    | none =>
      if ← atSign "**" ts then
        let (_, ts) ← expression strict fuel ts.tail
        return (⟨0, false, true⟩, ts)
      else if late then mismatch
      else
        let (_, ts) ← unpacked strict fuel ts
        return (⟨1, false, false⟩, ts)

/-- Refuses an equals sign after something else than a name. -/
def checkNamed : Nat → List Lexeme → Reading Unit
  | 0, _ => mismatch
  | fuel + 1, ts => do
    let isNamed ← match ← next? ts with
      | some (.keyword word) =>
        if ["True", "False", "None"].contains word then
          if ← atSign "=" ts.tail then refuse s!"cannot assign to {word}"
        pure false
      | some (.name _) =>
        if ← atSign "=" ts.tail then
          match ← attempt (expression true fuel ts.tail.tail) with
          | some (_, rest) =>
            match ← attempt (loops true fuel rest) with
            | some _ => refuse equalsMessage
            | none => pure ()
          | none => pure ()
          pure true
        else pure false
      | _ => pure false
    if !isNamed then
      match ← attempt (expression true fuel ts) with
      | some (_, rest) =>
        if ← atSign "=" rest then
          refuse "expression cannot contain assignment, perhaps you meant \"==\"?"
      | none => pure ()

/-- The number of unpacked arguments with commas between them. -/
def lateUnpacked : Nat → List Lexeme → Reading Nat
  | 0, _ => mismatch
  | fuel + 1, ts => do
    match ← attempt (unpacked true fuel ts) with
    | none => return 0
    | some (_, rest) =>
      if ← atSign "=" rest then return 0
      else if ← atSign "," rest then return (← lateUnpacked fuel rest.tail) + 1
      else return 1

/-- Refuses slips in the order of arguments, and loops among them. -/
def checkArguments : Nat → List Lexeme → Reading Unit
  | 0, _ => mismatch
  | fuel + 1, ts => do
    let all ← attempt (argumentList true fuel ts)
    match all with
    | some (_, rest) =>
      if ← atSign "," rest then
        if 0 < (← lateUnpacked fuel rest.tail) then
          refuse "iterable argument unpacking follows keyword argument unpacking"
    | none => pure ()
    match ← attempt (expression true fuel ts) with
    | some (_, rest) =>
      match ← attempt (loops true fuel rest) with
      | some (_, rest) =>
        if ← atSign "," rest then
          if (← attempt (argumentList true fuel rest.tail)).isNone then
            if let some (_, rest) ← attempt (expression true fuel rest.tail) then
              let _ ← attempt (loops true fuel rest)
          refuse loopMessage
      | none => pure ()
    | none => pure ()
    match all with
    | some (a, rest) =>
      match ← attempt (loops true fuel rest) with
      | some _ => if 1 < a.positional then refuse loopMessage
      | none => pure ()
      if ← atSign "," rest then
        match ← attempt (expression true fuel rest.tail) with
        | some (_, rest) =>
          match ← attempt (loops true fuel rest) with
          | some _ => refuse loopMessage
          | none => pure ()
        | none => pure ()
        match ← attempt (argumentList true fuel rest.tail) with
        | some _ =>
          let kind := if a.unpacked then "keyword argument unpacking" else "keyword argument"
          refuse s!"positional argument follows {kind}"
        | none => pure ()
    | none => pure ()

end

/-! ### Whole expressions -/

/-- The fuel for each token: more than the steps from an expression down to an atom. -/
def fuelPerToken : Nat := 32

/-- An expression with nothing but line ends after it. -/
def wholeReading (strict : Bool) (ts : List Lexeme) : Reading Expression := do
  let (e, rest) ← expressions strict false (fuelPerToken * (ts.length + 2)) ts
  match ← next? (rest.dropWhile (·.token == .lineEnd)) with
  | none => return e
  | some _ => mismatch

/-- The expression that tokens make; or a failure, with a message perhaps; and the number of
tokens that were left where reading came to.  An earlier reading may have come further. -/
def whole (strict : Bool) (left : Nat) (ts : List Lexeme) :
    Except (Option String) Expression × Nat :=
  let (result, progress) := Id.run ((wholeReading strict ts).run.run ⟨[], left⟩)
  (result, progress.left)

end Reader

/-- The message of what cannot be read after an expression fails. -/
def Tokens.broken? (ts : Tokens) : Option String :=
  ts.lexemes.findSome? fun l =>
    match l.token with
    | .broken message => some message
    | _ => none

/-- The message about the bracket that is open at the end, if it stands in a line before. -/
def Tokens.unclosed? (ts : Tokens) (line : Nat) : Option String :=
  match ts.opened with
  | (o, start) :: _ => if start < line then some s!"'{o}' was never closed" else none
  | [] => none

/-- What is wrong with tokens that are no expression, if reading came to where `left` of them
are left, and gave a message or none.  What is wrong with the tokens after that comes before
a message, but the tokens after the last one of the text are not looked for. -/
def Tokens.verdict (ts : Tokens) (left : Nat) (message : Option String) : String :=
  match (ts.lexemes.drop (ts.lexemes.length - left)).head? with
  | none => message.getD "invalid syntax"
  | some reached =>
    if reached.isFollowed || message.isNone then
      match reached.token.fault?, ts.broken?, ts.unclosed? reached.line with
      | some fault, _, _ => fault
      | none, some fault, _ => fault
      | none, none, some fault => fault
      | none, none, none => message.getD "invalid syntax"
    else message.getD "invalid syntax"

/-- The expression that a text writes, or what is wrong with it. -/
def read (text : List Char) : Except String Expression :=
  let ts := scan text
  match Reader.whole false ts.lexemes.length ts.lexemes with
  | (.ok e, _) => .ok e
  | (.error (some message), left) => .error (ts.verdict left message)
  | (.error none, left) =>
    match Reader.whole true left ts.lexemes with
    | (.error message, left) => .error (ts.verdict left message)
    | (.ok _, left) => .error (ts.verdict left none)

end Settings.Expression
