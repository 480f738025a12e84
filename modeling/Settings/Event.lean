import Settings.Deprecation.Warning
import Settings.Log.Level
import Settings.Path
import Settings.Text.Utf8

/-!
# Events

What the library says about its own work while it works: an event has a level, which
decides who gets to see it, and a message.
-/

namespace Settings

open Number

/-- Something worth a log record. -/
inductive Event where
  /-- The index of old keys has been built, with that many keys. -/
  | indexBuilt (size : Nat)
  /-- A deprecated key is written. -/
  | deprecated (warning : Warning)
  /-- A new store holds that many pairs. -/
  | seeded (size : Nat)
  /-- A properties file is about to be read. -/
  | loading (path : Path)
  /-- There is no regular file at the path. -/
  | fileNotFound (path : Path)
  /-- The file is not written in UTF-8. -/
  | undecodable (path : Path) (fault : Text.Utf8.Fault)
  /-- The statement that starts at a line cannot be read. -/
  | badStatement (line : Nat)
  /-- A properties file has been read and holds that many properties. -/
  | loaded (size : Nat) (path : Path)
  /-- An environment variable has been read. -/
  | variableRead (name : String)
  /-- The pairs of a properties file have been listed. -/
  | listed (size : Nat) (path : Path)
  deriving DecidableEq, Repr, Inhabited

namespace Event

/-- The level of an event. -/
def level : Event → Log.Level
  | deprecated _ => .warning
  | badStatement _ => .warning
  | fileNotFound _ => .error
  | undecodable _ _ => .error
  | _ => .debug

/-- The message of an event. -/
def message : Event → String
  | indexBuilt size => s!"Built deprecation index with {numeral size} alternative keys"
  | deprecated warning => warning.message
  | seeded size => s!"Seeded configuration with {numeral size} entries"
  | loading path => s!"Attempting to load properties file: {path.text}"
  | fileNotFound path => s!"Properties file not found: {path.text}"
  | undecodable path fault => s!"Error reading properties file {path.text}: {fault.message}"
  | badStatement line => s!"python-dotenv could not parse statement starting at line {numeral line}"
  | loaded size path => s!"Loaded {numeral size} properties from {path.text}"
  | variableRead name => s!"Read environment variable {name}"
  | listed size path => s!"Listed {numeral size} entries from {path.text}"

/-- The warning of an event, if it is one about a deprecated key. -/
def warning? : Event → Option Warning
  | deprecated warning => some warning
  | _ => none

end Event

end Settings
