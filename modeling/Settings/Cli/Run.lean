import Settings.Cli.Arguments
import Settings.Cli.Screen
import Settings.Environment
import Settings.Session
import Settings.Terminal.Table

/-!
# Runs of the command line

A run reads its arguments, does what the command says and ends with an exit code: 0 if all
went well, 1 if not, 2 if the arguments are misused.  A message may break the rules of
markup, because it quotes what the user wrote; a run whose last message does so ends
without an exit code.

## Main definitions

* `World` — files, directory and environment of a run.
* `Stop`, `Command.run` — how a command ends.
* `Trouble`, `report` — messages about what went wrong.
* `Transcript`, `run` — everything a run shows, and how it ends.
-/

namespace Settings.Cli

open Terminal Number

/-- What a run finds around it. -/
structure World where
  /-- The content of files. -/
  files : Properties.Files
  /-- The current directory. -/
  here : Path
  /-- The environment variables. -/
  env : Environment
  /-- The time that log records are stamped with. -/
  stamp : String

/-- How a command ends. -/
inductive Stop where
  /-- With an exit code. -/
  | exit (code : Nat)
  /-- With a fault that it does not report itself. -/
  | fault (f : Fault)
  /-- With a message that breaks the rules of markup. -/
  | markup (f : MarkupFault)
  deriving Inhabited

/-! ### Messages -/

/-- Prints a message and ends with an exit code. -/
def finish (s : Screen) (message : String) (code : Nat) : Screen × Stop :=
  match s.print message with
  | .ok s => (s, .exit code)
  | .error f => (s, .markup f)

/-- The message about a configuration error. -/
def configurationMessage (text : String) : String := s!"[red]Configuration Error:[/red] {text}"

/-- The message about a key without a value. -/
def unsetMessage (key : String) : String := s!"[yellow]Key not set:[/yellow] {key}"

/-- Ends with a fault: configuration errors are reported here. -/
def fail (s : Screen) (f : Fault) : Screen × Stop :=
  match f.configError? with
  | some e => finish s (configurationMessage e.text) 1
  | none => (s, .fault f)

/-! ### Commands -/

/-- A store with the pairs of the properties file that an argument names. -/
def openStore (w : World) (path : Path) : Except Fault Store × List Event :=
  Store.ofFile w.files w.here path ⟨.empty, .empty⟩

/-- Prints a duration in milliseconds. -/
def printDuration (s : Screen) (text : String) : Screen × Stop :=
  match Duration.ofText text with
  | .ok ms => (s.echo (numeral ms), .exit 0)
  | .error f => fail s f

/-- The pairs of a store in the order of their keys. -/
def sortedPairs (store : Store) : List (String × String) :=
  store.textPairs.mergeSort fun p q => !decide (q.1 < p.1)

/-- The text that a cell shows. -/
def cellText (s : String) : Except MarkupFault (List Char) :=
  (plainText (escape s.toList)).map dropControls

/-- The row of a pair. -/
def pairRow (p : String × String) : Except MarkupFault (List Char × List Char) := do
  let key ← cellText p.1
  let value ← cellText p.2
  return (key, value)

/-- The table of the pairs of a store. -/
def pairTable (path : Path) (store : Store) : Except MarkupFault Table := do
  let title ← plainText path.text.toList
  let rows ← (sortedPairs store).mapM pairRow
  return ⟨dropControls title, ("Key".toList, "Value".toList), rows⟩

/-- The version of the program. -/
def programVersion : String := "0.1.0"

/-- Does what a command says. -/
def Command.run (w : World) (m : Mode) (s : Screen) : Command → Screen × Stop
  | .duration text => printDuration s text
  | .show path =>
    let path := Path.ofString path
    match openStore w path with
    | (.error f, events) => fail (s.log m events) f
    | (.ok store, events) =>
      let s := s.log m events
      match pairTable path store with
      | .error f => (s, .markup f)
      | .ok table => ((table.lines.foldl Screen.addLine s).log m [.listed store.size path], .exit 0)
  | .get path key asDuration =>
    match openStore w (.ofString path) with
    | (.error f, events) => fail (s.log m events) f
    | (.ok store, events) =>
      let s := s.log m events
      match store.get key, asDuration with
      | none, _ => finish s (unsetMessage key) 1
      | some value, true => printDuration s value
      | some value, false => (s.echo value, .exit 0)
  | .version => finish s s!"typedconf [blue]v{programVersion}[/blue]" 0
  | .help => (s, .exit 0)

/-! ### Runs -/

/-- Something that a run ends with and has to report. -/
inductive Trouble where
  /-- A configuration error. -/
  | configuration (text : String)
  /-- A lack of permission. -/
  | permission (text : String)
  /-- Anything else. -/
  | other (text : String)
  deriving DecidableEq, Repr, Inhabited

/-- The message about trouble. -/
def Trouble.message : Trouble → String
  | .configuration text => configurationMessage text
  | .permission text => s!"[red]Permission Denied:[/red] {text}"
  | .other text => s!"[red]Error:[/red] {text}"

/-- The trouble that a fault is. -/
def Trouble.ofFault (f : Fault) : Trouble :=
  match f.configError? with
  | some e => .configuration e.text
  | none => .other f.message

/-- How a run ends. -/
inductive Ending where
  /-- With an exit code. -/
  | exit (code : Nat)
  /-- With a message that breaks the rules of markup. -/
  | broken (f : MarkupFault)
  deriving DecidableEq, Repr, Inhabited

/-- What a run shows, and how it ends. -/
structure Transcript where
  /-- The text on the screen. -/
  text : String
  /-- The end. -/
  ending : Ending
  deriving DecidableEq, Repr, Inhabited

/-- Reports trouble and ends with an exit code.  In the standard layout a verbose run then shows
one more record, of the places in the program that the trouble came from; it is left out here. -/
def report (s : Screen) (t : Trouble) (code : Nat) : Transcript :=
  match s.print t.message with
  | .ok s => ⟨s.text, .exit code⟩
  | .error f => ⟨s.text, .broken f⟩

/-- Ends a run after a command: what the command does not report is reported here. -/
def conclude (s : Screen) : Stop → Transcript
  | .exit code => ⟨s.text, .exit code⟩
  | .fault f => report s (.ofFault f) 1
  | .markup f => report s (.other f.message) 1

/-- The variable that makes a run verbose. -/
def verboseVariable : String := "TYPEDCONF_VERBOSE"

/-- The environment makes the run verbose. -/
def World.isVerbose (w : World) : Bool :=
  match w.env.lookup verboseVariable with
  | none => false
  | some text => text != "" && Environment.isOn text

/-- The mode of an invocation. -/
def Invocation.mode (w : World) (i : Invocation) : Mode :=
  ⟨i.verbose || w.isVerbose, i.layout, w.stamp⟩

/-- The run of a command line. -/
def run (w : World) (args : List String) : Transcript :=
  match Invocation.ofArguments? args with
  | none => ⟨"", .exit 2⟩
  | some i =>
    let (s, stop) := i.command.run w (i.mode w) .blank
    conclude s stop

/-- The run of a program that is interrupted. -/
def interrupted : Transcript :=
  match Screen.blank.print "\n[yellow]Operation cancelled by user[/yellow]" with
  | .ok s => ⟨s.text, .exit 130⟩
  | .error f => ⟨"", .broken f⟩

end Settings.Cli
