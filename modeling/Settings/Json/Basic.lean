/-!
# JSON values

A JSON value with its object members in the order in which they are written.

## Main definitions

* `Json` — the values.
* `Json.field?` — the first member of an object with a given name.
-/

namespace Settings

/-- A JSON value. -/
inductive Json where
  /-- The literal `null`. -/
  | null
  /-- A truth value. -/
  | bool (b : Bool)
  /-- A number written without fraction and exponent. -/
  | int (n : Int)
  /-- A number written with a fraction or an exponent: `digits` times a power of ten. -/
  | real (negative : Bool) (digits : Nat) (exponent : Int)
  /-- An infinite number, which some writers admit. -/
  | infinite (negative : Bool)
  /-- An undefined number, likewise. -/
  | undefined
  /-- A string. -/
  | text (s : String)
  /-- An array. -/
  | array (items : List Json)
  /-- An object, its members in order. -/
  | object (fields : List (String × Json))
  deriving Inhabited

namespace Json

/-- The first member of an object with a given name. -/
def field? (name : String) : Json → Option Json
  | .object fields => fields.lookup name
  | _ => none

/-- The string that a value is. -/
def text? : Json → Option String
  | .text s => some s
  | _ => none

/-- The items of an array. -/
def items? : Json → Option (List Json)
  | .array items => some items
  | _ => none

/-- The members of an object. -/
def fields? : Json → Option (List (String × Json))
  | .object fields => some fields
  | _ => none

end Json

end Settings
