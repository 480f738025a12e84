import Settings.Error
import Settings.Path
import Settings.Text.Utf8

/-!
# What can go wrong

Every way in which an operation on settings fails is a constructor of `Fault`.  Most
faults are configuration errors and are reported as such; the others come from numerals
that are too long, and from values that cannot serve as a key, an entry or a default.

## Main definitions

* `Fault` — the causes.
* `Fault.configError?` — the configuration error that reports a cause.
* `Fault.message` — the full text of a cause.
-/

namespace Settings

open Number

/-- A width of signed integers. -/
inductive IntWidth where
  | int32
  | int64
  deriving DecidableEq, Repr, Inhabited

/-- The least integer of a width. -/
def IntWidth.low : IntWidth → Int
  | .int32 => -2147483648
  | .int64 => -9223372036854775808

/-- The greatest integer of a width. -/
def IntWidth.high : IntWidth → Int
  | .int32 => 2147483647
  | .int64 => 9223372036854775807

/-- The integer has the width. -/
def IntWidth.holds (w : IntWidth) (n : Int) : Bool := decide (w.low ≤ n) && decide (n ≤ w.high)

/-- Why an operation on settings fails. -/
inductive Fault where
  /-- A value written under a bare key, which is shown by its text, is no text. -/
  | notText (key : Value) (shown : String) (actual : ValueType)
  /-- A value written under an entry is not of the type of its default. -/
  | wrongValueType (key : String) (declared actual : ValueType)
  /-- An entry is read as another type than that of its default. -/
  | wrongAccessor (key : String) (declared requested : ValueType)
  /-- A duration has neither a value nor a default. -/
  | missingDuration (key : String)
  /-- The value of an integer entry is no integer. -/
  | malformedInteger (key value : String)
  /-- The value of an integer entry does not fit the width it is read with. -/
  | integerOutOfRange (key : String) (width : IntWidth) (value : String) (number : Int)
  /-- A text is no duration. -/
  | malformedDuration (text : Option String)
  /-- A duration has an unknown unit. -/
  | unknownUnit (unit text : String)
  /-- A duration is negative. -/
  | negativeDuration (count : Int)
  /-- There is no regular file at a path. -/
  | fileNotFound (path : Path)
  /-- A path to be followed has the character U+0000. -/
  | nullInPath
  /-- A file is not written in UTF-8. -/
  | undecodable (path : Path) (fault : Text.Utf8.Fault)
  /-- A variable is to be read as an unknown type. -/
  | unsupportedTarget (target : String)
  /-- A variable to be read as an integer is none. -/
  | unreadableVariable (value target : String) (fault : NumeralFault)
  /-- A numeral cannot be converted. -/
  | numeral (fault : NumeralFault)
  /-- A value is used as an entry but has no default. -/
  | notAnEntry (kind : String)
  /-- A value cannot be the key of a map. -/
  | unusableKey (kind : String)
  /-- The default of a declared entry is no scalar. -/
  | unsupportedDefault (kind key : String)
  /-- The index of deprecated keys is written to. -/
  | readOnlyIndex
  /-- There is no store of that name. -/
  | unknownStore
  /-- A field of a declared entry is assigned to. -/
  | fixedField (name : String)
  /-- An enumeration has no member of that name. -/
  | unknownMember (name : String)
  /-- An enumeration has no member with that value, which is given by its literal. -/
  | unknownMemberValue (enumeration literal : String)
  deriving Inhabited

namespace Fault

/-- The configuration error that reports a fault, if it is reported as one. -/
def configError? : Fault → Option ConfigError
  | .notText key shown actual =>
    some ⟨s!"Raw value for {shown} must be a string.",
      .typeMismatch key (some .text) (some actual)⟩
  | .wrongValueType key declared actual =>
    some ⟨s!"Value doesn't match configuration entry type for {key}.",
      .typeMismatch (.text key) (some declared) (some actual)⟩
  | .wrongAccessor key declared requested =>
    some ⟨s!"Invalid type conversion requested for {key}.",
      .typeMismatch (.text key) (some declared) (some requested)⟩
  | .missingDuration key =>
    some ⟨s!"ConfEntry {key} doesn't have a default value, cannot convert to time value.",
      .missingDefault (.text key)⟩
  | .malformedInteger key value =>
    some ⟨s!"Invalid integer value for {key}: {value}", .format (.text value)⟩
  | .integerOutOfRange key width value number =>
    let bounds := s!"[{numeralInt width.low}, {numeralInt width.high}]"
    some ⟨s!"Value for {key} out of range {bounds}: {value}", .range (.int number)⟩
  | .malformedDuration none => some ⟨"Invalid time string: None", .format .null⟩
  | .malformedDuration (some text) => some ⟨s!"Invalid time string: {text}", .format (.text text)⟩
  | .unknownUnit unit text => some ⟨s!"Invalid suffix: \"{unit}\"", .format (.text text)⟩
  | .negativeDuration count => some ⟨s!"Invalid value: {numeralInt count}", .range (.int count)⟩
  | .fileNotFound path =>
    some ⟨s!"Properties file not found: {path.text}", .fileNotFound (.text path.text)⟩
  | .undecodable path fault =>
    some ⟨s!"Error reading properties file {path.text}: {fault.message}",
      .general (.text path.text) []⟩
  | .unsupportedTarget target => some ⟨s!"Unsupported target type: {target}", .general .null []⟩
  | .unreadableVariable value target fault =>
    some ⟨s!"Failed to convert environment variable value '{value}' to {target}: {fault.message}",
      .general .null []⟩
  | _ => none

/-- The wording about the character U+0000 in a path. -/
def nullMessage : String := "embedded null byte"

/-- The full text of a fault. -/
def message (f : Fault) : String :=
  match f.configError? with
  | some e => e.text
  | none =>
    match f with
    | .nullInPath => nullMessage
    | .numeral fault => fault.message
    | .notAnEntry kind => s!"'{kind}' object has no attribute 'default'"
    | .unusableKey kind => s!"unhashable type: '{kind}'"
    | .unsupportedDefault kind key => s!"Unsupported default type {kind} for {key}"
    | .readOnlyIndex => "'mappingproxy' object does not support item assignment"
    | .unknownStore => "no store"
    | .fixedField name => s!"cannot assign to field {String.ofList (Text.quote name.toList)}"
    | .unknownMember name => String.ofList (Text.quote name.toList)
    | .unknownMemberValue enumeration literal => s!"{literal} is not a valid {enumeration}"
    | _ => ""

end Fault

/-- The entry that a program declares, if its default is a scalar. -/
def Value.asDefault (key : String) : Value → Except Fault Scalar
  | .scalar s => .ok s
  | v => .error (.unsupportedDefault v.kindName key)

end Settings
