import Settings.Event
import Settings.Fault
import Settings.FileTree
import Settings.Properties.Statement

/-!
# Reading properties files

The octets of a file are decoded as UTF-8, line ends of every kind become line feeds, a
byte order mark at the start is dropped, and statements are read until none is left.  The
bindings make a map: a later one gives its key another value or takes it away, and the
key keeps its place.

## Main definitions

* `normaliseLines`, `dropMark` — the text that statements are read from.
* `statements` — the statements of a text with the lines they start at.
* `properties` — the map of a list of statements.
* `locate` — the absolute path of a file.
* `load` — the properties of a file, or why it cannot be read, and what is logged.
-/

namespace Settings.Properties

open Text

/-! ### Text -/

/-- The text with every line end as a line feed. -/
def normaliseLines : List Char → List Char
  | [] => []
  | '\r' :: '\n' :: cs => '\n' :: normaliseLines cs
  | '\r' :: cs => '\n' :: normaliseLines cs
  | c :: cs => c :: normaliseLines cs

/-- The text without a byte order mark at its start. -/
def dropMark : List Char → List Char
  | '\ufeff' :: cs => cs
  | cs => cs

/-! ### Statements -/

/-- The statements of a text that starts at a line, each with the line it starts at. -/
def statements (line : Nat) (cs : List Char) : List (Nat × Statement) :=
  let start := cs.dropWhile isBlank
  if _h : start = [] then []
  else
    let rest := (readStatement start).2
    (line, (readStatement start).1) :: statements (line + (cs.count '\n' - rest.count '\n')) rest
termination_by cs.length
decreasing_by exact Nat.lt_of_lt_of_le (length_readStatement_lt ‹_›) (length_dropWhile_le _ _)

/-- The key and the value that a statement gives it, if any. -/
def Statement.pair? : Statement → Option (String × Option String)
  | .binding key value => some (key, value)
  | _ => none

/-- The properties that statements leave. -/
def properties (sts : List Statement) : OrderedMap String String :=
  (OrderedMap.ofList (sts.filterMap Statement.pair?)).somes

/-- The warnings about bad statements. -/
def warnings (sts : List (Nat × Statement)) : List Event :=
  sts.filterMap fun p => if p.2 = .bad then some (.badStatement p.1) else none

/-- The statements of the text of a file. -/
def parse (text : List Char) : List (Nat × Statement) :=
  statements 1 (dropMark (normaliseLines text))

/-! ### Files -/

/-- The path of a properties file: seen from a directory `root`, which itself is seen from
the current directory `here`, unless it is absolute. -/
def resolvePath (here root path : Path) : Path :=
  if path.isAbsolute then path else here.resolve (root.join path)

/-- The path of a properties file, if it can be followed; an absolute one is taken as it is. -/
def locate (here root path : Path) : Except Fault Path :=
  if !path.isAbsolute && (root.join path).hasNull then .error .nullInPath
  else .ok (resolvePath here root path)

theorem locate_of_isAbsolute {here root path : Path} (h : path.isAbsolute = true) :
    locate here root path = .ok path := by
  simp [locate, resolvePath, h]

/-- The content of the regular file at an absolute path, if there is one. -/
abbrev Files := Path → Option (List UInt8)

/-- The properties of the file at an absolute path, and what is logged. -/
def load (files : Files) (path : Path) :
    Except Fault (OrderedMap String String) × List Event :=
  match files path with
  | none => (.error (.fileNotFound path), [.loading path, .fileNotFound path])
  | some octets =>
    match Utf8.decode octets with
    | .error fault => (.error (.undecodable path fault), [.loading path, .undecodable path fault])
    | .ok text =>
      let sts := parse text
      let found := properties (sts.map Prod.snd)
      (.ok found, .loading path :: warnings sts ++ [.loaded found.size path])

end Settings.Properties
