import Settings.Log.Layout
import Settings.Text.Lower

/-!
# Command lines

A command line is options, a command, and the command's own options and operands.  The
options before the command end at the first operand, which names the command; among those
of a command, options and operands may come in any order.  Two dashes end the options.

## Main definitions

* `Flag` — the options without a value.
* `Invocation` — what a command line asks for.
* `Invocation.ofArguments?` — the invocation of a command line, unless it is misused.
-/

namespace Settings.Cli

open Text

/-- What to do. -/
inductive Command where
  /-- Convert a duration. -/
  | duration (text : String)
  /-- List a properties file. -/
  | show (path : String)
  /-- Print the value of a key, or its milliseconds. -/
  | get (path key : String) (asDuration : Bool)
  /-- Print the version. -/
  | version
  /-- Print a help text. -/
  | help
  deriving DecidableEq, Repr, Inhabited

/-- A command with the options before it. -/
structure Invocation where
  /-- Log everything. -/
  verbose : Bool
  /-- The layout of log records. -/
  layout : Log.Layout
  /-- The command. -/
  command : Command
  deriving DecidableEq, Repr, Inhabited

/-! ### Options -/

/-- An option without a value. -/
inductive Flag where
  | verbose
  | duration
  | help
  deriving DecidableEq, Repr, Inhabited

/-- The spellings of an option: its long form and its letter. -/
def Flag.spelling : Flag → String × Char
  | .verbose => ("--verbose", 'v')
  | .duration => ("--duration", 'd')
  | .help => ("--help", 'h')

/-- The argument is an option, or a cluster of them. -/
def isOption (arg : String) : Bool :=
  match arg.toList with
  | '-' :: _ :: _ => true
  | _ => false

/-- The options that an argument stands for, one long one or one for each letter. -/
def flagsOf? (allowed : List Flag) (arg : String) : Option (List Flag) :=
  match allowed.find? (·.spelling.1 == arg) with
  | some flag => some [flag]
  | none =>
    match arg.toList with
    | '-' :: '-' :: _ => none
    | '-' :: letters => letters.mapM fun c => allowed.find? (·.spelling.2 == c)
    | _ => none

/-! ### The options before a command -/

/-- The name of the option for the layout. -/
def layoutOption : String := "--log-format"

/-- The value of the option for the layout, if the argument holds both. -/
def layoutValue? (arg : String) : Option String :=
  let name := (layoutOption ++ "=").toList
  if name.isPrefixOf arg.toList then some (String.ofList (arg.toList.drop name.length)) else none

/-- The options before a command, and what follows them. -/
structure Globals where
  /-- The options without a value. -/
  flags : List Flag
  /-- The word for the layout, the last one if there are several. -/
  layout : Option String
  /-- The command and what follows it. -/
  rest : List String
  deriving DecidableEq, Repr, Inhabited

/-- Reads the options before a command. -/
def readGlobals (g : Globals) : List String → Option Globals
  | [] => some g
  | arg :: args =>
    if arg = "--" then some { g with rest := args }
    else if arg = layoutOption then
      match args with
      | [] => none
      | word :: args => readGlobals { g with layout := some word } args
    else if isOption arg then
      match layoutValue? arg, flagsOf? [.verbose, .help] arg with
      | some word, _ => readGlobals { g with layout := some word } args
      | none, some flags => readGlobals { g with flags := g.flags ++ flags } args
      | none, none => none
    else some { g with rest := arg :: args }

/-- The layout that a word names, in any case of letters. -/
def layoutOf? (word : String) : Option Log.Layout :=
  Log.Layout.ofWord? (String.ofList (caseless word.toList))

/-! ### Commands -/

/-- The options and operands of a command, among the options it allows. -/
def readOperands (allowed : List Flag) : List String → Option (List Flag × List String)
  | [] => some ([], [])
  | arg :: args =>
    if arg = "--" then some ([], args)
    else if isOption arg then
      match flagsOf? allowed arg, readOperands allowed args with
      | some flags, some (more, operands) => some (flags ++ more, operands)
      | _, _ => none
    else (readOperands allowed args).map fun (flags, operands) => (flags, arg :: operands)

/-- A command with its operands, which have to be as many as it takes. -/
def command? (allowed : List Flag) (args : List String)
    (make : List Flag → List String → Option Command) : Option Command :=
  match readOperands (.help :: allowed) args with
  | none => none
  | some (flags, operands) => if flags.contains .help then some .help else make flags operands

/-- The command of a name with its options and operands. -/
def commandOf? (name : String) (args : List String) : Option Command :=
  match name with
  | "duration" => command? [] args fun _ operands =>
    match operands with
    | [text] => some (.duration text)
    | _ => none
  | "show" => command? [] args fun _ operands =>
    match operands with
    | [path] => some (.show path)
    | _ => none
  | "get" => command? [.duration] args fun flags operands =>
    match operands with
    | [path, key] => some (.get path key (flags.contains .duration))
    | _ => none
  | "version" => command? [] args fun _ operands =>
    match operands with
    | [] => some .version
    | _ => none
  | _ => none

/-- The invocation of a command line, unless it is misused. -/
def Invocation.ofArguments? (args : List String) : Option Invocation := do
  let g ← readGlobals ⟨[], none, []⟩ args
  if g.flags.contains .help then return ⟨false, .standard, .help⟩
  let layout ← match g.layout with
    | none => some .standard
    | some word => layoutOf? word
  match g.rest with
  | [] => none
  | name :: rest =>
    let command ← commandOf? name rest
    return ⟨g.flags.contains .verbose, layout, command⟩

end Settings.Cli
