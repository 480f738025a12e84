import Settings.Number.Binary64
import Settings.Number.Integer

/-!
# Values

A setting is a truth value, an integer or a text; `Scalar` is that, or nothing.  The
values that reach the library may be of other kinds as well, and are told apart by
their `ValueType`.

## Main definitions

* `Scalar`, `Value` — the values that settings have, and those that callers may pass.
* `ValueType`, `Value.type` — the type of a value; nothing counts as a text.
* `Value.display`, `Value.literal` — the text of a value, alone and inside another.
* `Value.isTruthy`, `Value.isHashable` — how a value counts as a condition, and whether it
  may be the key of a map.
-/

namespace Settings

open Number Text

/-- A value that a setting may have. -/
inductive Scalar where
  /-- No value. -/
  | null
  /-- A truth value. -/
  | bool (b : Bool)
  /-- An integer. -/
  | int (n : Int)
  /-- A text. -/
  | text (s : String)
  deriving DecidableEq, Repr, Inhabited

/-- A value of any kind. -/
inductive Value where
  /-- A value that a setting may have. -/
  | scalar (s : Scalar)
  /-- A floating point number. -/
  | float (x : Binary64)
  /-- A string of octets. -/
  | bytes (octets : List UInt8)
  /-- A list of values. -/
  | list (items : List Value)
  /-- A dictionary with its fields in order. -/
  | dict (fields : List (String × Value))
  /-- A declared entry: a key with a scalar default. -/
  | entry (key : String) (default : Scalar)
  /-- Any other object with a key and a default. -/
  | adHocEntry (key : String) (default : Value)
  deriving Inhabited

instance : Coe Scalar Value := ⟨Value.scalar⟩

/-- The value that stands for no value. -/
abbrev Value.null : Value := .scalar .null

/-- A text as a value. -/
abbrev Value.text (s : String) : Value := .scalar (.text s)

/-- An integer as a value. -/
abbrev Value.int (n : Int) : Value := .scalar (.int n)

/-- A truth value as a value. -/
abbrev Value.bool (b : Bool) : Value := .scalar (.bool b)

/-- The text that a value is. -/
def Value.text? : Value → Option String
  | .scalar (.text s) => some s
  | _ => none

@[simp] theorem Value.text?_text (s : String) : (Value.text s).text? = some s := rfl

theorem Value.eq_text_of_text? {v : Value} {s : String} (h : v.text? = some s) : v = .text s := by
  unfold text? at h
  split at h
  · rw [Option.some.inj h]
  · exact nomatch h

/-! ### Types -/

/-- The type of a value. -/
inductive ValueType where
  | bool
  | int
  | text
  | float
  | bytes
  | list
  | dict
  | entry
  | adHocEntry
  deriving DecidableEq, Repr, Inhabited

/-- The name of a type in messages. -/
def ValueType.name : ValueType → String
  | .bool => "bool"
  | .int => "int"
  | .text => "str"
  | .float => "float"
  | .bytes => "bytes"
  | .list => "list"
  | .dict => "dict"
  | .entry => "ConfigEntry"
  | .adHocEntry => "Entry"

/-- The type that a scalar gives to a setting; a setting without a default is a text. -/
def Scalar.type : Scalar → ValueType
  | .null => .text
  | .bool _ => .bool
  | .int _ => .int
  | .text _ => .text

/-- The type of a value. -/
def Value.type : Value → ValueType
  | .scalar s => s.type
  | .float _ => .float
  | .bytes _ => .bytes
  | .list _ => .list
  | .dict _ => .dict
  | .entry _ _ => .entry
  | .adHocEntry _ _ => .adHocEntry

@[simp] theorem Value.type_scalar (s : Scalar) : (Value.scalar s).type = s.type := rfl

theorem Value.eq_bool_of_type {v : Value} (h : v.type = .bool) : ∃ b, v = .bool b := by
  cases v with
  | scalar s =>
    cases s with
    | bool b => exact ⟨b, rfl⟩
    | _ => exact nomatch h
  | _ => exact nomatch h

theorem Value.eq_int_of_type {v : Value} (h : v.type = .int) : ∃ n, v = .int n := by
  cases v with
  | scalar s =>
    cases s with
    | int n => exact ⟨n, rfl⟩
    | _ => exact nomatch h
  | _ => exact nomatch h

theorem Value.eq_text_of_type {v : Value} (h : v.type = .text) :
    v = .null ∨ ∃ s, v = .text s := by
  cases v with
  | scalar s =>
    cases s with
    | null => exact Or.inl rfl
    | text s => exact Or.inr ⟨s, rfl⟩
    | _ => exact nomatch h
  | _ => exact nomatch h

/-- A value of a type. -/
def ValueType.sample : ValueType → Value
  | .bool => .bool false
  | .int => .int 0
  | .text => .null
  | .float => .float default
  | .bytes => .bytes []
  | .list => .list []
  | .dict => .dict []
  | .entry => .entry "" .null
  | .adHocEntry => .adHocEntry "" .null

@[simp] theorem ValueType.type_sample (t : ValueType) : t.sample.type = t := by
  cases t <;> rfl

/-- The name of the kind of a value, where having no value is a kind of its own. -/
def Value.kindName : Value → String
  | .scalar .null => "NoneType"
  | v => v.type.name

/-- The value may be stored where `expected` is the default: it has the same type, or is
no value at all. -/
def Value.fits (v expected : Value) : Bool :=
  match v with
  | .scalar .null => true
  | v => v.type == expected.type

/-- Equality of scalars by content, where the truth values count as the numbers 0 and 1. -/
def Scalar.same : Scalar → Scalar → Bool
  | .bool a, .int n => n == (if a then 1 else 0)
  | .int n, .bool a => n == (if a then 1 else 0)
  | a, b => a == b

/-- The value counts as true where a condition is asked for: it is not nothing, not zero and
not empty. -/
def Value.isTruthy : Value → Bool
  | .scalar .null => false
  | .scalar (.bool b) => b
  | .scalar (.int n) => n != 0
  | .scalar (.text s) => s != ""
  | .float x => !x.isInt 0
  | .bytes octets => !octets.isEmpty
  | .list items => !items.isEmpty
  | .dict fields => !fields.isEmpty
  | .entry _ _ => true
  | .adHocEntry _ _ => true

/-- The value may be the key of a map. -/
def Value.isHashable : Value → Bool
  | .list _ => false
  | .dict _ => false
  | _ => true

/-! ### Text of values -/

/-- The spelling of a truth value in the text of a value. -/
def boolText (b : Bool) : String := if b then "True" else "False"

/-- The text of a scalar inside another value: texts are quoted. -/
def Scalar.literal : Scalar → Except NumeralFault String
  | .null => .ok "None"
  | .bool b => .ok (boolText b)
  | .int n => printInteger n
  | .text s => .ok (String.ofList (quote s.toList))

/-- Items between brackets, separated by commas. -/
def bracketed (opening closing : String) (items : List String) : String :=
  opening ++ String.intercalate ", " items ++ closing

/-- The text of an entry of a class with given texts of key and default. -/
def entryLiteral (type : ValueType) (key default : String) : String :=
  s!"{type.name}(key={key}, default={default})"

mutual

/-- The text of a value inside another value. -/
def Value.literal : Value → Except NumeralFault String
  | .scalar s => s.literal
  | .float x => .ok x.text
  | .bytes octets => .ok (String.ofList (quoteBytes octets))
  | .list items => (itemLiterals items).map (bracketed "[" "]")
  | .dict fields => (fieldLiterals fields).map (bracketed "\x7b" "\x7d")
  | .entry key default =>
    default.literal.map (entryLiteral .entry (String.ofList (quote key.toList)))
  | .adHocEntry key default =>
    default.literal.map (entryLiteral .adHocEntry (String.ofList (quote key.toList)))

/-- The texts of the items of a list. -/
def itemLiterals : List Value → Except NumeralFault (List String)
  | [] => .ok []
  | v :: vs => do
    let first ← v.literal
    let rest ← itemLiterals vs
    return first :: rest

/-- The texts of the fields of a dictionary. -/
def fieldLiterals : List (String × Value) → Except NumeralFault (List String)
  | [] => .ok []
  | (name, v) :: fields => do
    let first ← v.literal
    let rest ← fieldLiterals fields
    return (String.ofList (quote name.toList) ++ ": " ++ first) :: rest

end

/-- The text of a value on its own: a text is itself. -/
def Value.display : Value → Except NumeralFault String
  | .scalar (.text s) => .ok s
  | v => v.literal

end Settings
