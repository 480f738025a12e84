import Settings.Event
import Settings.Log.Layout
import Settings.Terminal.Markup
import Settings.Terminal.Wrap

/-!
# What a run shows

A run writes to the screen: values as they are, messages with markup, and, in the standard
layout, the log records of at least its level.  The first record carries the time, the
others stand under it, as all records of a run are taken to have the same time.  The screen
is taken to be wide enough for every line, so that none of them is broken.

## Main definitions

* `Mode` — what a run logs, and how.
* `Screen` — what has been written so far.
* `Screen.echo`, `Screen.print`, `Screen.log` — writing a value, a message, events.
-/

namespace Settings.Cli

open Terminal

/-- What a run logs, and how. -/
structure Mode where
  /-- Everything is logged. -/
  verbose : Bool
  /-- The layout of log records; only those of the standard layout are shown here. -/
  layout : Log.Layout
  /-- The time that records are stamped with. -/
  stamp : String
  deriving DecidableEq, Repr, Inhabited

/-- The least level that is logged. -/
def Mode.level (m : Mode) : Log.Level := if m.verbose then .debug else .info

/-- The event is shown. -/
def Mode.shows (m : Mode) (e : Event) : Bool :=
  m.layout == .standard && decide (m.level.number ≤ e.level.number)

/-- What has been written so far. -/
structure Screen where
  /-- The text. -/
  text : String
  /-- A record has been stamped with the time. -/
  stamped : Bool
  deriving DecidableEq, Repr, Inhabited

namespace Screen

/-- Nothing has been written. -/
def blank : Screen := ⟨"", false⟩

/-- A line after the text so far. -/
def addLine (s : Screen) (line : List Char) : Screen :=
  ⟨s.text ++ String.ofList line ++ "\n", s.stamped⟩

/-- A value as it is, but without control sequences. -/
def echo (s : Screen) (value : String) : Screen := s.addLine (dropSequences value.toList)

/-- A message with markup, on a screen that is wide enough for it. -/
def print (s : Screen) (message : String) : Except MarkupFault Screen :=
  (plainText message.toList).map fun cs => s.addLine (tidy cs)

/-! ### Log records -/

/-- The cells of the name of a level. -/
def levelWidth : Nat := 8

/-- The spaces that fill a text up to a width. -/
def spaces (n : Nat) : List Char := List.replicate n ' '

/-- What stands before the message of a record. -/
def margin (m : Mode) (stamped : Bool) (level : Log.Level) : List Char :=
  (if stamped then spaces m.stamp.length else m.stamp.toList) ++ ' ' ::
    level.name.toList ++ spaces (levelWidth - level.name.length) ++ [' ']

/-- The lines of the record of an event; the lines of its message stand under each other. -/
def recordLines (m : Mode) (stamped : Bool) (e : Event) : List (List Char) :=
  let first := margin m stamped e.level
  match Text.lines (tidy e.message.toList) with
  | [] => [first]
  | line :: more => (first ++ line) :: more.map (spaces first.length ++ ·)

/-- The record of an event, if the run shows it. -/
def logEvent (m : Mode) (s : Screen) (e : Event) : Screen :=
  if m.shows e then ⟨((recordLines m s.stamped e).foldl addLine s).text, true⟩ else s

/-- The records of events, all with one time. -/
def log (m : Mode) (s : Screen) (events : List Event) : Screen := events.foldl (logEvent m) s

@[simp] theorem log_nil (m : Mode) (s : Screen) : s.log m [] = s := rfl

end Screen

end Settings.Cli
