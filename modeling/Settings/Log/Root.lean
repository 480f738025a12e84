import Settings.Fault
import Settings.Log.FileSize
import Settings.Log.Layout

/-!
# The root logger

The root logger has a level and handlers, and every record of at least that level goes to
every handler.  Setting logging up replaces both.  A root logger without handlers still
shows warnings, message only, on the console.

Handlers may be of any kind: all that a logger asks of one is the level that it takes and what
it writes of a record.

## Main definitions

* `Logger`, `Options`, `Logger.configure` — setting logging up.
* `Receiver`, `Logger.emit` — where a record is written, and what.
* `Root` — the root logger with the handlers of this module only.
* `Written` — the text on the console and in files.
-/

namespace Settings.Log

open Number

/-- Where a handler writes. -/
inductive Target where
  /-- The console. -/
  | console
  /-- A file. -/
  | file (path : Path)
  /-- A file that is replaced when it reaches a size, and the number of old ones to keep. -/
  | rotating (path : Path) (size backups : Int)
  deriving DecidableEq, Repr, Inhabited

/-- The file that a handler writes to. -/
def Target.file? : Target → Option Path
  | .console => none
  | .file path => some path
  | .rotating path _ _ => some path

@[simp] theorem Target.file?_console : Target.console.file? = none := rfl

/-- A handler writes records of at least a level to a place. -/
structure Handler where
  /-- The place. -/
  target : Target
  /-- The level. -/
  level : Level
  /-- The layout of the records. -/
  layout : Layout
  deriving DecidableEq, Repr, Inhabited

/-- A logger hands the records of at least its level on to its handlers, which are of a type
`α`.  So do the loggers below it that have no level of their own. -/
structure Logger (α : Type) where
  /-- The least number of a level that is handled. -/
  level : Int
  /-- The handlers. -/
  handlers : List α
  deriving DecidableEq, Repr, Inhabited

/-- The root logger. -/
abbrev Root := Logger Handler

/-- What logging is set up with. -/
structure Options where
  /-- The level of the root logger and of its handlers. -/
  level : Level := .info
  /-- The layout of every handler. -/
  layout : Layout := .standard
  /-- The directory that the log file is seen from. -/
  directory : Path := ⟨.root, []⟩
  /-- The log file, if any. -/
  file : Option String := none
  /-- Records go to the console. -/
  console : Bool := true
  /-- The log file is replaced when it reaches its size. -/
  rotation : Bool := false
  /-- The size of the log file. -/
  maxFileSize : String := "10MB"
  /-- The number of old log files to keep. -/
  backups : Int := 5
  deriving Repr, Inhabited

/-- Why logging cannot be set up. -/
inductive SetupFault where
  /-- The size of the log file is no number. -/
  | size (fault : NumeralFault)
  /-- The path of the log file has the character U+0000. -/
  | nullInPath
  deriving DecidableEq, Repr, Inhabited

/-- The wording of a fault. -/
def SetupFault.message : SetupFault → String
  | .size fault => fault.message
  | .nullInPath => Fault.nullMessage

namespace Options

/-- The absolute path of a log file; two slashes at its start stay two. -/
def filePath (o : Options) (name : String) : Path :=
  let named := Path.ofString name
  let path := o.directory.resolve named
  if named.anchor = .doubleRoot then { path with anchor := .doubleRoot } else path

/-- The log file, if its name is not empty. -/
def logFile (o : Options) : Option Path := (o.file.filter (· != "")).map o.filePath

/-- The handler for the console. -/
def consoleHandlers (o : Options) : List Handler :=
  if o.console then [⟨.console, o.level, o.layout⟩] else []

/-- The place of the log file. -/
def fileTarget (o : Options) (path : Path) : Except SetupFault Target :=
  let opened (target : Target) : Except SetupFault Target :=
    if path.hasNull then .error .nullInPath else .ok target
  if o.rotation then
    match parseFileSize o.maxFileSize with
    | .error fault => .error (.size fault)
    | .ok size => opened (.rotating path size o.backups)
  else opened (.file path)

end Options

namespace Logger

variable {α : Type}

/-- The logger at another level. -/
def withLevel (logger : Logger α) (level : Level) : Logger α := { logger with level := level.number }

/-- The logger without its handlers. -/
def cleared (logger : Logger α) : Logger α := { logger with handlers := [] }

/-- The logger with more handlers, after those that it has. -/
def withHandlers (logger : Logger α) (handlers : List α) : Logger α :=
  { logger with handlers := logger.handlers ++ handlers }

/-- Sets logging up, where `attach` makes a new handler one of the logger's.  The handlers from
before are gone, even if the size of the log file cannot be read and its handler is missing. -/
def configure (attach : Handler → α) (logger : Logger α) (o : Options) :
    Except SetupFault Unit × Logger α :=
  let logger := (logger.withLevel o.level).cleared.withHandlers (o.consoleHandlers.map attach)
  match o.logFile with
  | none => (.ok (), logger)
  | some path =>
    match o.fileTarget path with
    | .error fault => (.error fault, logger)
    | .ok target => (.ok (), logger.withHandlers [attach ⟨target, o.level, o.layout⟩])

end Logger

namespace Root

/-- The root logger as a process starts with it. -/
def initial : Root := ⟨Level.warning.number, []⟩

/-- Sets logging up. -/
def configure (root : Root) (o : Options) : Except SetupFault Unit × Root :=
  Logger.configure id root o

end Root

/-! ### Writing -/

/-- The text on the console and in files. -/
structure Written where
  /-- The text on the console. -/
  console : String
  /-- The files and their text, in the order in which they were opened. -/
  files : List (Path × String)
  deriving DecidableEq, Repr, Inhabited

/-- Nothing on the console, and the files of the handlers empty. -/
def Root.opened (root : Root) : Written :=
  ⟨"", root.handlers.filterMap fun h => h.target.file?.map (·, "")⟩

/-- The text after more has been written to a place. -/
def Written.append (w : Written) (target : Target) (text : String) : Written :=
  match target.file? with
  | none => ⟨w.console ++ text, w.files⟩
  | some path =>
    ⟨w.console, w.files.map fun f => if f.1 = path then (f.1, f.2 ++ text) else f⟩

/-- What a logger asks of a handler. -/
structure Receiver where
  /-- The least number of a level that it takes. -/
  level : Int
  /-- The places and lines that it writes a record to. -/
  write : Record → List (Target × String)

/-- A handler writes a record as a line in its layout.  A record whose text cannot be made is not
written; the report of that on the console, which is for people who look for the mistake, is left
out here. -/
def Handler.write (h : Handler) (r : Record) : List (Target × String) :=
  match h.layout.format r with
  | .ok text => [(h.target, text ++ "\n")]
  | .error _ => []

/-- A handler takes the records of its level. -/
def Handler.receiver (h : Handler) : Receiver := ⟨h.level.number, h.write⟩

/-- The line of a record with its message only, on the console.  A record whose level has no name
is not made, so that there is no line of it either. -/
def writeBare (r : Record) : List (Target × String) :=
  match r.levelName, r.message with
  | .ok _, .ok message =>
    [(.console, withException (r.exception.map Exception.shown) message ++ "\n")]
  | _, _ => []

/-- What stands in for handlers that are missing: it shows warnings. -/
def lastResort : Receiver := ⟨Level.warning.number, writeBare⟩

namespace Logger

variable {α : Type}

/-- The receivers of a logger, given those that its handlers are. -/
def receivers (receiver : α → Receiver) (logger : Logger α) : List Receiver :=
  if logger.handlers.isEmpty then [lastResort] else logger.handlers.map receiver

/-- The receivers that a record reaches. -/
def reached (receiver : α → Receiver) (logger : Logger α) (level : Int) : List Receiver :=
  if logger.level ≤ level then
    (logger.receivers receiver).filter fun h => decide (h.level ≤ level)
  else []

/-- The places and lines that a record is written to. -/
def emit (receiver : α → Receiver) (logger : Logger α) (r : Record) : List (Target × String) :=
  (logger.reached receiver r.level).flatMap (·.write r)

end Logger

/-- The places and lines that a record is written to. -/
def Root.emit (root : Root) (r : Record) : List (Target × String) :=
  Logger.emit Handler.receiver root r

/-- The text after a record has been written. -/
def Root.write (root : Root) (w : Written) (r : Record) : Written :=
  (root.emit r).foldl (fun w p => w.append p.1 p.2) w

/-- The text of a list of records. -/
def Root.writeAll (root : Root) (rs : List Record) : Written := rs.foldl root.write root.opened

end Settings.Log
