import Settings.Cli.Run

/-!
# The program

Reads the properties file that the command line names, runs the command line, and shows
what the run shows.
-/

open Settings

/-- The path of the properties file that a command reads. -/
def Settings.Cli.Command.path? : Cli.Command → Option String
  | .show path => some path
  | .get path _ _ => some path
  | _ => none

/-- The octets of a regular file, if it can be read. -/
def readOctets (path : String) : IO (Option (List UInt8)) := do
  try
    let octets ← IO.FS.readBinFile path
    return some octets.toList
  catch _ => return none

/-- The files that a command line reads. -/
def filesOf (here : Path) (args : List String) : IO Properties.Files := do
  match (Cli.Invocation.ofArguments? args).bind fun i => i.command.path? with
  | none => return fun _ => none
  | some path =>
    let place := Properties.resolvePath here here (.ofString path)
    let octets ← readOctets place.text
    return fun p => if p = place then octets else none

/-- Runs the program. -/
def main (args : List String) : IO UInt32 := do
  let here := Path.ofString (toString (← IO.currentDir))
  let env := (← IO.getEnv Cli.verboseVariable).map fun text => (Cli.verboseVariable, text)
  let files ← filesOf here args
  let transcript := Cli.run ⟨files, here, env.toList, "[00:00:00]"⟩ args
  IO.print transcript.text
  match transcript.ending with
  | .exit code => return code.toUInt32
  | .broken fault =>
    IO.eprintln fault.message
    return 1
