import Settings.Deprecation.Index
import Settings.Store.StoredKey

/-!
# Stores of settings

A store maps keys to texts, in order of insertion, and knows which keys are
deprecated.  Every write of a key first looks the key up among the deprecated ones
and logs a warning if it is there; a read of a key without a value falls back to the
value of its old key, once.

## Main definitions

* `Store` — the pairs, the tables and the index of deprecated keys.
* `Store.get` — the value of a key, or of its old key.
* `Store.write`, `Store.writeAll`, `Store.remove` — the changes.
* `Store.holds`, `Store.store`, `Store.drop` — look-up and changes under keys of any kind.
* `Store.create` — a new store, with pairs to start from.
-/

namespace Settings

/-- A store of settings. -/
structure Store where
  /-- The tables of deprecated keys. -/
  tables : Tables
  /-- The index over the tables. -/
  index : Index
  /-- The keys and their texts. -/
  config : OrderedMap StoredKey String
  deriving Inhabited

/-- What a call leads to: its result, the store afterwards, and what is logged. -/
structure Outcome (α : Type) where
  /-- The result. -/
  result : Except Fault α
  /-- The store afterwards. -/
  store : Store
  /-- What is logged. -/
  events : List Event
  deriving Inhabited

namespace Store

/-- A store without pairs. -/
def fresh (t : Tables) : Store := ⟨t, .fresh, .empty⟩

/-- The pairs in order. -/
def toList (s : Store) : List (StoredKey × String) := s.config.toList

/-- The number of pairs. -/
def size (s : Store) : Nat := s.config.size

/-- The key has a value of its own. -/
def contains (s : Store) (key : String) : Bool := s.config.contains (.text key)

/-- The pair of a text, unless its key is something else. -/
def textPair? : StoredKey × String → Option (String × String)
  | (.text key, value) => some (key, value)
  | _ => none

/-- The pairs whose keys are texts, in order. -/
def textPairs (s : Store) : List (String × String) := s.toList.filterMap textPair?

/-- A copy of the pairs as a map of its own. -/
def copy (s : Store) : OrderedMap StoredKey String := .ofList s.toList

/-! ### Reading -/

/-- The value of a key, or else the value of its old key. -/
def get (s : Store) (key : String) : Option String :=
  match s.config.find? (.text key) with
  | some value => some value
  | none => (Index.alternativeFor s.tables key).bind fun d => s.config.find? (.text d.key)

/-- The store after a read of a key: the old key is looked up only if need be. -/
def afterGet (s : Store) (key : String) : Store :=
  if s.contains key then s else { s with index := s.index.askAlternatives }

@[simp] theorem config_afterGet (s : Store) (key : String) :
    (s.afterGet key).config = s.config := by
  rw [afterGet]; split <;> rfl

@[simp] theorem tables_afterGet (s : Store) (key : String) :
    (s.afterGet key).tables = s.tables := by
  rw [afterGet]; split <;> rfl

/-! ### Writing -/

/-- The store with a pair written, whatever the key. -/
def put (s : Store) (key value : String) : Store :=
  { s with config := s.config.insert (.text key) value }

/-- The store after the deprecation check of a key, and what is logged. -/
def note (s : Store) (key : String) : Store × List Event :=
  let (_, i, events) := s.index.note s.tables key
  ({ s with index := i }, events)

/-- The store after a write: the key is checked, then the pair is written. -/
def write (s : Store) (key value : String) : Store × List Event :=
  let (s, events) := s.note key
  (s.put key value, events)

/-- The store after pairs have been written one after the other. -/
def writeAll (s : Store) : List (String × String) → Store × List Event
  | [] => (s, [])
  | (key, value) :: ps =>
    let (s, events) := s.write key value
    let (s, more) := s.writeAll ps
    (s, events ++ more)

/-- The store without a key. -/
def remove (s : Store) (key : String) : Store :=
  { s with config := s.config.erase (.text key) }

@[simp] theorem config_put (s : Store) (key value : String) :
    (s.put key value).config = s.config.insert (.text key) value := rfl

@[simp] theorem config_note (s : Store) (key : String) : (s.note key).1.config = s.config := rfl

@[simp] theorem tables_note (s : Store) (key : String) : (s.note key).1.tables = s.tables := rfl

@[simp] theorem config_write (s : Store) (key value : String) :
    (s.write key value).1.config = s.config.insert (.text key) value := rfl

@[simp] theorem tables_write (s : Store) (key value : String) :
    (s.write key value).1.tables = s.tables := rfl

@[simp] theorem writeAll_nil (s : Store) : s.writeAll [] = (s, []) := rfl

theorem config_writeAll (s : Store) (ps : List (String × String)) :
    (s.writeAll ps).1.config = s.config.insertAll (ps.map fun p => (.text p.1, p.2)) := by
  induction ps generalizing s with
  | nil => rfl
  | cons p ps ih => exact ih (s.write p.1 p.2).1

@[simp] theorem config_remove (s : Store) (key : String) :
    (s.remove key).config = s.config.erase (.text key) := rfl

/-! ### Keys of any kind -/

/-- The key of the store that is the same as a given one. -/
def found? (s : Store) (key : StoredKey) : Option StoredKey := s.config.keys.find? (·.same key)

/-- The store has a value under the key. -/
def holds (s : Store) (key : StoredKey) : Bool := (s.found? key).isSome

/-- The number of objects among the keys. -/
def objects (s : Store) : Nat := s.config.keys.countP StoredKey.isObject

/-- The store with a text under a key that it does not hold. -/
def store (s : Store) (key : StoredKey) (value : String) : Store :=
  { s with config := s.config.insert (key.numbered s.objects) value }

/-- The store without a key. -/
def drop (s : Store) (key : StoredKey) : Store :=
  match s.found? key with
  | none => s
  | some found => { s with config := s.config.erase found }

/-- The store after the deprecation check of a key that is no text, and what is logged: the
tables have texts for keys, so that it is in neither. -/
def noteOther (s : Store) : Store × List Event :=
  let (i, events) := s.index.force s.tables
  ({ s with index := ⟨i.built, i.alternativesReads, i.deprecatedReads + 1⟩ }, events)

/-! ### New stores -/

/-- The pairs of texts among pairs of any kind.  Of the pairs with one key only the last
counts, at the place of the first, whether its value is a text or not. -/
def seedPairs (ps : List (Value × Value)) : List (String × String) :=
  (OrderedMap.ofList (ps.filterMap fun p => p.1.text?.map (·, p.2))).toList.filterMap
    fun p => p.2.text?.map (p.1, ·)

/-- A new store, and what is logged: the pairs to start from are written one by one. -/
def create (t : Tables) : Option (List (Value × Value)) → Store × List Event
  | none => (fresh t, [])
  | some ps =>
    let (s, events) := (fresh t).writeAll (seedPairs ps)
    (s, events ++ [.seeded s.size])

end Store

end Settings
