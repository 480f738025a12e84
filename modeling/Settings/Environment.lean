import Settings.Event
import Settings.Store.Typed

/-!
# Environment variables

A variable holds a text and is read as a text, a truth value or an integer.  A variable
that is set but empty has no value.

## Main definitions

* `Environment` — the variables and their texts.
* `Environment.convert` — a text as a value of a given type.
* `Environment.readVariable` — a variable as such a value, and what is logged.
* `Environment.isTestMode` — the switch for test runs.
-/

namespace Settings

/-- The environment variables and their texts. -/
abbrev Environment := List (String × String)

namespace Environment

open Number Text

/-- The text of a truth value is `true` in any case; no text is false. -/
def parseBoolean : Option String → Bool
  | none => false
  | some text => isTrue text

/-- The words that switch a variable on, in small letters. -/
def onWords : List String := ["true", "1", "yes", "on", "enabled"]

/-- The text switches a variable on. -/
def isOn (text : String) : Bool := onWords.contains (String.ofList (lower text.toList))

/-- The text of a variable as a value of the type named `target`. -/
def convert (target text : String) : Except Fault Scalar :=
  if text = "" then .ok .null
  else
    match target with
    | "boolean" => .ok (.bool (isOn text))
    | "integer" =>
      match readInteger text with
      | .ok n => .ok (.int n)
      | .error fault => .error (.unreadableVariable text target fault)
    | "string" => .ok (.text text)
    | target => .error (.unsupportedTarget target)

/-- The text of a variable, if it is set at all, as a value. -/
def convert? (target : String) : Option String → Except Fault Scalar
  | none => .ok .null
  | some text => convert target text

/-- A variable as a value, with a default for when it is not set, and what is logged. -/
def readVariable (env : Environment) (name : String) (default : Value) (target : String) :
    Except Fault Value × List Event :=
  match env.lookup name with
  | none => (.ok default, [])
  | some text => ((convert target text).map .scalar, [.variableRead name])

/-- The variable that marks test runs. -/
def testModeVariable : String := "TYPEDCONF_TEST"

/-- The environment is that of a test run. -/
def isTestMode (env : Environment) : Bool := parseBoolean (env.lookup testModeVariable)

end Environment

end Settings
