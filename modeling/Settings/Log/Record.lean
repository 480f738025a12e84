import Settings.Log.Calendar
import Settings.Log.Level
import Settings.Log.Template

/-!
# Log records

A record is a message with where, when and how urgently it was said, and perhaps with the
exception that it is about.
-/

namespace Settings.Log

open Number

/-- An exception that a record is about. -/
structure Exception where
  /-- The name of its class. -/
  className : String
  /-- Its text. -/
  text : String
  deriving DecidableEq, Repr, Inhabited

/-- A log record. -/
structure Record where
  /-- The logger that the record goes to. -/
  logger : String
  /-- The number of its level. -/
  level : Int
  /-- The template of its message. -/
  template : String
  /-- The arguments of the template. -/
  args : List Value
  /-- The file it comes from. -/
  path : String
  /-- The line of the file. -/
  line : Int
  /-- The function it comes from. -/
  function : Option String
  /-- When it was made. -/
  moment : Moment
  /-- The exception that it is about. -/
  exception : Option Exception
  deriving Inhabited

/-- Why a record cannot be written. -/
inductive RecordFault where
  /-- The arguments do not fit the template. -/
  | template (fault : TemplateFault)
  /-- The moment cannot be written. -/
  | moment (fault : MomentFault)
  /-- The number of the level or of the line is too long. -/
  | numeral (fault : NumeralFault)
  deriving Repr, Inhabited

/-- The wording of a fault. -/
def RecordFault.message : RecordFault → String
  | .template fault => fault.message
  | .moment fault => fault.message
  | .numeral fault => fault.message

/-- The name of a level number: that of the named level, or else the number. -/
def levelName (n : Int) : Except NumeralFault String :=
  match Level.ofNumber? n with
  | some l => .ok l.name
  | none => if n = 0 then .ok "NOTSET" else (printInteger n).map fun text => s!"Level {text}"

/-- The name of the level of a record. -/
def Record.levelName (r : Record) : Except RecordFault String :=
  (Log.levelName r.level).mapError .numeral

/-- The name of a file without its last extension; dots at its start begin none. -/
def stem (name : List Char) : List Char :=
  let dots := name.takeWhile (· == '.')
  let rest := name.dropWhile (· == '.')
  let reversed := rest.reverse
  match reversed.dropWhile (· != '.') with
  | [] => name
  | _ :: before => dots ++ before.reverse

/-- The file name at the end of a path. -/
def fileName (path : List Char) : List Char := (path.reverse.takeWhile (· != '/')).reverse

/-- The module of a record: the name of its file without the extension. -/
def Record.module (r : Record) : String := String.ofList (stem (fileName r.path.toList))

/-- The message of a record. -/
def Record.message (r : Record) : Except RecordFault String :=
  (fill r.template r.args).mapError .template

/-- The class of an exception as it is shown: a configuration error by its full name. -/
def Exception.shownClass (e : Exception) : String :=
  if e.className = "ConfigurationError" then
    "typedconf.exceptions.config_exceptions.ConfigurationError"
  else e.className

/-- The text of an exception as it is shown: a missing key is quoted. -/
def Exception.shownText (e : Exception) : String :=
  if e.className = "KeyError" then String.ofList (Text.quote e.text.toList) else e.text

/-- Class and text of an exception, or the class alone if the text is empty. -/
def Exception.shown (e : Exception) : String :=
  if e.shownText = "" then e.shownClass else s!"{e.shownClass}: {e.shownText}"

end Settings.Log
