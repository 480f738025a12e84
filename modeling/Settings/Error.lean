import Settings.Value

/-!
# Configuration errors

A configuration error has a message and says what it is about.  Its text is the
message, the file it concerns if any, and a numbered list of suggestions.  Callers may
describe files, keys and suggestions by values of any kind; one that does not count as true
is as good as none.

## Main definitions

* `ErrorKind`, `ConfigError` — the errors.
* `ConfigError.suggestions` — what each kind of error suggests.
* `ConfigError.text?` — the full text, unless a numeral in it is too long to be written;
  `ConfigError.text` for the others.
-/

namespace Settings

/-- What a configuration error is about. -/
inductive ErrorKind where
  /-- Anything else, with a file and suggestions of its own. -/
  | general (file : Value) (suggestions : List Value)
  /-- A file that is not there. -/
  | fileNotFound (file : Value)
  /-- A key whose declared type is not the one asked for or supplied. -/
  | typeMismatch (key : Value) (expected actual : Option ValueType)
  /-- A key with neither a value nor a default. -/
  | missingDefault (key : Value)
  /-- A value that is not written as it has to be. -/
  | format (value : Value)
  /-- A value that is well written but out of range. -/
  | range (value : Value)
  deriving Inhabited

/-- A configuration error. -/
structure ConfigError where
  /-- What happened. -/
  message : String
  /-- What the error is about. -/
  kind : ErrorKind
  deriving Inhabited

namespace ConfigError

/-- The file that an error concerns. -/
def file (e : ConfigError) : Value :=
  match e.kind with
  | .general file _ => file
  | .fileNotFound file => file
  | _ => .null

/-- What to do about a key with neither a value nor a default. -/
def defaultAdvice (key : Value) : Except Number.NumeralFault (List Value) :=
  if key.isTruthy then
    key.display.map fun shown => [.text s!"Set {shown} explicitly or declare a default duration"]
  else .ok []

/-- What to do about an error. -/
def suggestions (e : ConfigError) : Except Number.NumeralFault (List Value) :=
  match e.kind with
  | .general _ suggestions => .ok suggestions
  | .fileNotFound _ =>
    .ok [.text "Check if the properties file exists at the specified path",
      .text "Verify file permissions allow reading"]
  | .typeMismatch _ (some expected) _ =>
    .ok [.text s!"Use the accessor matching the declared type ({expected.name})"]
  | .missingDefault key => defaultAdvice key
  | _ => .ok []

/-- Numbered lines for suggestions, counted from `n`. -/
def numbered (n : Nat) : List Value → Except Number.NumeralFault String
  | [] => .ok ""
  | v :: rest => do
    let shown ← v.display
    let more ← numbered (n + 1) rest
    return s!"\n  {Number.numeral n}. {shown}" ++ more

/-- The line about the file. -/
def fileLine (file : Value) : Except Number.NumeralFault String :=
  if file.isTruthy then file.display.map fun shown => s!"\nConfig file: {shown}" else .ok ""

/-- The full text of an error. -/
def text? (e : ConfigError) : Except Number.NumeralFault String := do
  let suggestions ← e.suggestions
  let about ← fileLine e.file
  let lines ← numbered 1 suggestions
  return e.message ++ about ++ (if suggestions.isEmpty then "" else "\n\nSuggestions:" ++ lines)

/-- The full text of an error whose numerals are short enough to be written. -/
def text (e : ConfigError) : String := e.text?.toOption.getD e.message

end ConfigError

end Settings
