import Settings.Value

/-!
# Entries

An entry names a key and gives its default, whose type is the type of every typed
read and write of that key.  Programs declare entries with scalar defaults, once and
for all; but any object that carries a key and a default serves as an entry too, and
nothing is known about its default.

## Main definitions

* `Entry` — declared entries and ad hoc ones.
* `Entry.same` — equality of entries: by content if declared, by identity if ad hoc.
* `Deprecation` — a key that is going away, since when, and what to do about it.
-/

namespace Settings

/-- A key together with its default. -/
inductive Entry where
  /-- A declared entry: its fields are fixed and its default is a scalar. -/
  | declared (key : String) (default : Scalar)
  /-- Any other object with a key and a default, which may change. -/
  | adHoc (key : String) (default : Value)
  deriving Inhabited

namespace Entry

/-- The key. -/
def key : Entry → String
  | .declared key _ => key
  | .adHoc key _ => key

/-- The default. -/
def default : Entry → Value
  | .declared _ default => .scalar default
  | .adHoc _ default => default

/-- The entry as a value. -/
def toValue : Entry → Value
  | .declared key default => .entry key default
  | .adHoc key default => .adHocEntry key default

/-- The fields cannot be assigned to. -/
def isFixed : Entry → Bool
  | .declared _ _ => true
  | .adHoc _ _ => false

/-- Two separately made entries are equal: ad hoc entries never are. -/
def same : Entry → Entry → Bool
  | .declared key default, .declared key' default' => key == key' && default.same default'
  | _, _ => false

@[simp] theorem key_declared (key : String) (d : Scalar) : (declared key d).key = key := rfl

@[simp] theorem default_declared (key : String) (d : Scalar) :
    (declared key d).default = .scalar d := rfl

@[simp] theorem key_adHoc (key : String) (d : Value) : (adHoc key d).key = key := rfl

@[simp] theorem default_adHoc (key : String) (d : Value) : (adHoc key d).default = d := rfl

end Entry

/-! ### Deprecated keys -/

/-- A deprecated key. -/
structure Deprecation where
  /-- The deprecated key. -/
  key : String
  /-- The version since which it is deprecated. -/
  version : String
  /-- What the warning says about a key without a replacement. -/
  advice : String
  deriving DecidableEq, Repr, Inhabited

/-! ### Text of entries -/

/-- The text of an entry. -/
def Entry.literal (e : Entry) : Except Number.NumeralFault String := e.toValue.literal

/-- The text of a deprecated key. -/
def Deprecation.literal (d : Deprecation) : String :=
  let quoted (s : String) : String := String.ofList (Text.quote s.toList)
  s!"DeprecatedEntry(key={quoted d.key}, version={quoted d.version}, " ++
    s!"deprecation_message={quoted d.advice})"

end Settings
