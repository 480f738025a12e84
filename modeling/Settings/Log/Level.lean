/-!
# Log levels

The five named levels have numbers, so that a threshold is a comparison.  Records may
carry other numbers too; those are named after the number.
-/

namespace Settings.Log

/-- A named log level. -/
inductive Level where
  | debug
  | info
  | warning
  | error
  | critical
  deriving DecidableEq, Repr, Inhabited

namespace Level

/-- The levels from the least to the most severe. -/
def all : List Level := [.debug, .info, .warning, .error, .critical]

/-- The number of a level. -/
def number : Level → Int
  | .debug => 10
  | .info => 20
  | .warning => 30
  | .error => 40
  | .critical => 50

/-- The name of a level. -/
def name : Level → String
  | .debug => "DEBUG"
  | .info => "INFO"
  | .warning => "WARNING"
  | .error => "ERROR"
  | .critical => "CRITICAL"

/-- The level with a given name. -/
def ofName? (name : String) : Option Level := all.find? (·.name == name)

/-- The level with a given number. -/
def ofNumber? (n : Int) : Option Level := all.find? (·.number == n)

@[simp] theorem ofName?_name (l : Level) : ofName? l.name = some l := by cases l <;> decide

@[simp] theorem ofNumber?_number (l : Level) : ofNumber? l.number = some l := by
  cases l <;> decide

end Level

end Settings.Log
