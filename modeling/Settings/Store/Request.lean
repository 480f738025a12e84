import Settings.Store.Typed

/-!
# Stores as machines

A request is one call on a store.  Every request leads to an answer or a fault, a store
and log events; `Store.run` follows a list of them.

## Main definitions

* `Key`, `Key.ofValue` — what a caller may pass for a key.
* `Store.Request`, `Store.Answer` — the calls and what they answer.
* `Store.perform`, `Store.run` — one call, and one after the other.
-/

namespace Settings

/-- The value is a text or an entry. -/
def Value.namesKey : Value → Bool
  | .scalar (.text _) => true
  | .entry _ _ => true
  | .adHocEntry _ _ => true
  | _ => false

/-- What a caller may pass for a key. -/
inductive Key where
  /-- A key by name. -/
  | name (key : String)
  /-- An entry. -/
  | entry (e : Entry)
  /-- Neither of these. -/
  | other (v : Value) (h : v.namesKey = false := by rfl)

namespace Key

instance : Inhabited Key := ⟨.name ""⟩

/-- The value that a caller passes for a key. -/
def toValue : Key → Value
  | .name key => .text key
  | .entry e => e.toValue
  | .other v _ => v

/-- What it means to pass a value for a key. -/
def ofValue : Value → Key
  | .scalar (.text key) => .name key
  | .entry key default => .entry (.declared key default)
  | .adHocEntry key default => .entry (.adHoc key default)
  | .scalar .null => .other .null
  | .scalar (.bool b) => .other (.bool b)
  | .scalar (.int n) => .other (.int n)
  | .float x => .other (.float x)
  | .bytes octets => .other (.bytes octets)
  | .list items => .other (.list items)
  | .dict fields => .other (.dict fields)

@[simp] theorem toValue_ofValue (v : Value) : (ofValue v).toValue = v := by
  cases v with
  | scalar s => cases s <;> rfl
  | float x => rfl
  | bytes octets => rfl
  | list items => rfl
  | dict fields => rfl
  | entry key default => rfl
  | adHocEntry key default => rfl

end Key

namespace Store

/-- A call on a store. -/
inductive Request where
  /-- Read a key, or an entry as a text. -/
  | get (key : Key)
  /-- Write a value. -/
  | set (key : Key) (v : Value)
  /-- Write a value under a key that has none. -/
  | setIfMissing (key : Key) (v : Value)
  /-- Write the pairs of another store. -/
  | setAll (pairs : List (StoredKey × String))
  /-- Remove a key. -/
  | remove (key : Key)
  /-- Read an entry. -/
  | read (a : Accessor) (e : Entry)
  /-- Ask whether a key has a value of its own. -/
  | contains (key : Key)
  /-- Ask for the number of pairs. -/
  | size
  /-- Ask for the pairs. -/
  | pairs
  /-- Ask for a copy of the pairs as a map. -/
  | copy
  /-- Ask for the tables of deprecated keys. -/
  | tables
  /-- Ask how often the index asked for each table. -/
  | reads
  deriving Inhabited

/-- The request may change the pairs. -/
def Request.mutates : Request → Bool
  | .set _ _ => true
  | .setIfMissing _ _ => true
  | .setAll _ => true
  | .remove _ => true
  | _ => false

/-- What a store answers. -/
inductive Answer where
  /-- A change is done. -/
  | done
  /-- A scalar. -/
  | scalar (v : Scalar)
  /-- Pairs in order. -/
  | pairs (ps : List (StoredKey × String))
  /-- The tables. -/
  | tables (t : Tables)
  /-- How often each table was asked for. -/
  | reads (alternatives deprecated : Nat)
  deriving Inhabited

/-- A call that changes the store answers that it is done. -/
def ofChange (o : Outcome Unit) : Outcome Answer := ⟨o.result.map fun _ => .done, o.store, o.events⟩

/-- A call that leaves the pairs alone and logs nothing. -/
def ofRead (s : Store) (result : Except Fault Scalar) : Outcome Answer :=
  ⟨result.map .scalar, s, []⟩

/-- The store after a caller has asked for both tables. -/
def afterTables (s : Store) : Store :=
  { s with index :=
      ⟨s.index.built, s.index.alternativesReads + 1, s.index.deprecatedReads + 1⟩ }

/-- A write of a value under what a caller passes for a key. -/
def set (s : Store) (key : Key) (v : Value) : Outcome Unit :=
  match key with
  | .name key => s.setRaw key v
  | .entry e => s.setEntry e v
  | .other k _ => ⟨.error (.notAnEntry k.kindName), s, []⟩

/-- What a caller passes who takes a key from a store. -/
def keyOf (key : StoredKey) : Key := .ofValue key.toValue

@[simp] theorem keyOf_text (key : String) : keyOf (.text key) = .name key := rfl

/-- Writes of the pairs of another store, up to the first that fails. -/
def setAll (s : Store) : List (StoredKey × String) → Outcome Unit
  | [] => ⟨.ok (), s, []⟩
  | (key, value) :: ps =>
    let o := s.set (keyOf key) (.text value)
    match o.result with
    | .error fault => ⟨.error fault, o.store, o.events⟩
    | .ok _ =>
      let rest := o.store.setAll ps
      ⟨rest.result, rest.store, o.events ++ rest.events⟩

/-- A removal of a key that is no text.  Nothing is looked up in a store without pairs. -/
def removeOther (s : Store) (key : Value) : Outcome Unit :=
  if s.size = 0 then ⟨.ok (), s, []⟩
  else
    match StoredKey.ofValue? key with
    | none => ⟨.error (.unusableKey key.kindName), s, []⟩
    | some k => ⟨.ok (), s.drop k, []⟩

/-- Whether a key that is no text has a value. -/
def containsOther (s : Store) (key : Value) : Except Fault Bool :=
  match StoredKey.ofValue? key with
  | none => .error (.unusableKey key.kindName)
  | some k => .ok (s.holds k)

/-- One call on a store. -/
def perform (s : Store) : Request → Outcome Answer
  | .get (.name key) =>
    (s.afterGet key).ofRead (.ok (((s.get key).map .text).getD .null))
  | .get (.entry e) => (s.afterRead .string e).ofRead (s.read .string e)
  | .get (.other v _) => s.ofRead (.error (.notAnEntry v.kindName))
  | .set key v => ofChange (s.set key v)
  | .setIfMissing (.name key) v => ofChange (s.setIfMissing key v)
  | .setIfMissing key v => ofChange (s.setOtherIfMissing key.toValue v)
  | .setAll ps => ofChange (s.setAll ps)
  | .remove (.name key) => ⟨.ok .done, s.remove key, []⟩
  | .remove key => ofChange (s.removeOther key.toValue)
  | .read a e => (s.afterRead a e).ofRead (s.read a e)
  | .contains (.name key) => s.ofRead (.ok (.bool (s.contains key)))
  | .contains key => s.ofRead ((s.containsOther key.toValue).map .bool)
  | .size => s.ofRead (.ok (.int s.size))
  | .pairs => ⟨.ok (.pairs s.toList), s, []⟩
  | .copy => ⟨.ok (.pairs s.copy.toList), s, []⟩
  | .tables => ⟨.ok (.tables s.tables), s.afterTables, []⟩
  | .reads => ⟨.ok (.reads s.index.alternativesReads s.index.deprecatedReads), s, []⟩

/-- The store after a list of calls, and everything that is logged. -/
def run (s : Store) : List Request → Store × List Event
  | [] => (s, [])
  | r :: rs =>
    let o := s.perform r
    let (s, events) := o.store.run rs
    (s, o.events ++ events)

@[simp] theorem run_nil (s : Store) : s.run [] = (s, []) := rfl

/-- The pairs of a store whose keys are texts are all written. -/
theorem setAll_text (s : Store) (ps : List (String × String)) :
    s.setAll (ps.map fun p => (.text p.1, p.2))
      = ⟨.ok (), (s.writeAll ps).1, (s.writeAll ps).2⟩ := by
  induction ps generalizing s with
  | nil => rfl
  | cons p ps ih =>
    simp only [List.map_cons, setAll, keyOf_text, set, setRaw, ih]
    rfl

end Store

end Settings
