import Settings.Value

/-!
# Keys of a store

Settings have texts for keys, but a store accepts other values as well.  A key is found
under any value that is the same: truth values count as the numbers 0 and 1, and a floating
point number is the same as the integer of its size.

## Main definitions

* `StoredKey` — the keys.
* `StoredKey.same` — which keys find each other.
* `StoredKey.ofValue?`, `StoredKey.toValue` — from values that may be keys, and back.
* `StoredKey.numbered` — tells an object from those that came before it.
-/

namespace Settings

open Number

/-- A key of a store. -/
inductive StoredKey where
  /-- A text, as all settings have. -/
  | text (s : String)
  /-- Nothing. -/
  | null
  /-- A truth value. -/
  | bool (b : Bool)
  /-- An integer. -/
  | int (n : Int)
  /-- A floating point number. -/
  | float (x : Binary64)
  /-- A string of octets. -/
  | bytes (octets : List UInt8)
  /-- A declared entry. -/
  | entry (key : String) (default : Scalar)
  /-- Another object with this key and a default of this type.  It is found under no other
  object; the objects that one store holds are told apart by their numbers. -/
  | object (number : Nat) (key : String) (type : ValueType)
  deriving DecidableEq, Repr, Inhabited

namespace StoredKey

instance : Coe String StoredKey := ⟨StoredKey.text⟩

/-- The integer that a truth value counts as. -/
def ofBool (b : Bool) : Int := if b then 1 else 0

/-- The keys find each other. -/
def same : StoredKey → StoredKey → Bool
  | .bool a, .int n => n == ofBool a
  | .int n, .bool b => n == ofBool b
  | .float x, .int n => x.isInt n
  | .int n, .float y => y.isInt n
  | .float x, .bool b => x.isInt (ofBool b)
  | .bool a, .float y => y.isInt (ofBool a)
  | .float x, .float y => x.same y
  | .entry key default, .entry key' default' => key == key' && default.same default'
  | .object _ _ _, .object _ _ _ => false
  | a, b => a == b

/-- The key that a value may serve as: lists and dictionaries are no keys. -/
def ofValue? : Value → Option StoredKey
  | .scalar (.text s) => some (.text s)
  | .scalar .null => some .null
  | .scalar (.bool b) => some (.bool b)
  | .scalar (.int n) => some (.int n)
  | .float x => some (.float x)
  | .bytes octets => some (.bytes octets)
  | .entry key default => some (.entry key default)
  | .adHocEntry key default => some (.object 0 key default.type)
  | .list _ => none
  | .dict _ => none

/-- The key as a value; of an object only the type of its default is known. -/
def toValue : StoredKey → Value
  | .text s => .text s
  | .null => .null
  | .bool b => .bool b
  | .int n => .int n
  | .float x => .float x
  | .bytes octets => .bytes octets
  | .entry key default => .entry key default
  | .object _ key type => .adHocEntry key type.sample

/-- The key is an object. -/
def isObject : StoredKey → Bool
  | .object _ _ _ => true
  | _ => false

/-- The key with a number of its own, if it is an object. -/
def numbered (n : Nat) : StoredKey → StoredKey
  | .object _ key type => .object n key type
  | k => k

/-- A text is found under itself only. -/
@[simp] theorem same_text (s : String) (k : StoredKey) :
    same (.text s) k = true ↔ k = .text s := by
  cases k <;> simp only [same, beq_iff_eq, reduceCtorEq, StoredKey.text.injEq]
  exact eq_comm

end StoredKey

end Settings
