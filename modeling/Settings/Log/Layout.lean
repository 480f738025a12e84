import Settings.Json.Printer
import Settings.Log.Record

/-!
# Layouts of log records

A layout turns a record into the text that a handler writes: two layouts of fields in a
line, and one JSON object a line.

## Main definitions

* `Layout` — the layouts, with their names.
* `Shown` — what the layouts show of a record.
* `Shown.json`, `Layout.format` — the text of a record.
-/

namespace Settings.Log

open Number

/-- A layout of log records. -/
inductive Layout where
  /-- Time, logger, level and message. -/
  | standard
  /-- A JSON object. -/
  | json
  /-- The standard fields, with the place in the program. -/
  | detailed
  deriving DecidableEq, Repr, Inhabited

namespace Layout

/-- The layouts. -/
def all : List Layout := [.standard, .json, .detailed]

/-- The word that selects a layout. -/
def word : Layout → String
  | .standard => "standard"
  | .json => "json"
  | .detailed => "detailed"

/-- The name of a layout. -/
def name : Layout → String
  | .standard => "STANDARD"
  | .json => "JSON"
  | .detailed => "DETAILED"

/-- The layout that a word selects. -/
def ofWord? (word : String) : Option Layout := all.find? (·.word == word)

/-- The layout with a name. -/
def ofName? (name : String) : Option Layout := all.find? (·.name == name)

/-- How a layout describes itself. -/
def describe : Layout → String
  | .standard => "%(asctime)s - %(name)s - %(levelname)s - %(message)s"
  | .json => "json"
  | .detailed =>
    "%(asctime)s - %(name)s - %(levelname)s - %(module)s:%(funcName)s:%(lineno)d - %(message)s"

end Layout

/-! ### What is shown -/

/-- What the layouts show of a record. -/
structure Shown where
  /-- When it was made. -/
  time : String
  /-- The logger that it went to. -/
  logger : String
  /-- The name of its level. -/
  level : String
  /-- The module it comes from. -/
  module : String
  /-- The function it comes from. -/
  function : Option String
  /-- The line of the file. -/
  line : Int
  /-- The message. -/
  message : String
  /-- The exception that it is about. -/
  exception : Option String
  deriving DecidableEq, Repr, Inhabited

/-- What is shown of a record with the name of its level, its time and its message. -/
def Record.shown (r : Record) (level time message : String) : Shown where
  time := time
  logger := r.logger
  level := level
  module := r.module
  function := r.function
  line := r.line
  message := message
  exception := r.exception.map Exception.shown

/-! ### JSON -/

/-- A text, or null. -/
def jsonOption : Option String → Json
  | some s => .text s
  | none => .null

/-- The fields of a JSON object, in order. -/
def Shown.fields (x : Shown) : List (String × Json) :=
  [("timestamp", .text x.time), ("logger", .text x.logger), ("level", .text x.level),
   ("module", .text x.module), ("function", jsonOption x.function), ("line", .int x.line),
   ("message", .text x.message)]
  ++ (x.exception.map fun e => ("exception", Json.text e)).toList

/-- A JSON object, on one line. -/
def Shown.json (x : Shown) : Except NumeralFault String :=
  (Json.object x.fields).compact.map String.ofList

/-! ### Lines of fields -/

/-- A text with the text of an exception on a line of its own after it. -/
def withException (exception : Option String) (text : String) : String :=
  match exception with
  | none => text
  | some e => (if text.toList.getLast? = some '\n' then text else text ++ "\n") ++ e

/-- The fields of the standard layout. -/
def Shown.standard (x : Shown) : String :=
  s!"{x.time} - {x.logger} - {x.level} - {x.message}"

/-- The fields of the detailed layout. -/
def Shown.detailed (x : Shown) : Except NumeralFault String :=
  (printInteger x.line).map fun line =>
    let function := x.function.getD "None"
    let place := s!"{x.module}:{function}:{line}"
    s!"{x.time} - {x.logger} - {x.level} - {place} - {x.message}"

/-- The text of what is shown of a record. -/
def Layout.render (l : Layout) (x : Shown) : Except NumeralFault String :=
  match l with
  | .standard => .ok (withException x.exception x.standard)
  | .json => x.json
  | .detailed => x.detailed.map (withException x.exception)

/-- The time of a record as a layout shows it. -/
def Layout.time (l : Layout) (r : Record) : Except RecordFault String :=
  match l with
  | .json => r.moment.isoText.mapError .moment
  | _ => r.moment.logText.mapError .moment

/-- The text of a record.  Its level gets its name when the record is made, before all else.  A
JSON object takes its time before its message, a line of fields its message first. -/
def Layout.format (l : Layout) (r : Record) : Except RecordFault String :=
  match r.levelName with
  | .error fault => .error fault
  | .ok level =>
    match l.time r, r.message with
    | .ok time, .ok message => (l.render (r.shown level time message)).mapError .numeral
    | .error fault, .ok _ => .error fault
    | .ok _, .error fault => .error fault
    | .error fault, .error fault' => .error (if l = .json then fault else fault')

end Settings.Log
