import Settings.Properties.Reader
import Settings.Store.Request

/-!
# Sessions

A session holds stores and cursors by name.  A cursor goes through the pairs that a store
had when the cursor was made.

## Main definitions

* `Store.ofFile` — a new store with the pairs of a properties file.
* `Session.Step`, `Session.perform` — one step of a session.
* `Reply`, `Session.run` — what the steps of a session answer.
-/

namespace Settings

/-- A new store with the pairs of the properties file at a path, seen from a directory, and
what is logged. -/
def Store.ofFile (files : Properties.Files) (here path : Path) (t : Tables) :
    Except Fault Store × List Event :=
  match Properties.locate here here path with
  | .error fault => (.error fault, [])
  | .ok path =>
    match Properties.load files path with
    | (.error fault, events) => (.error fault, events)
    | (.ok found, events) =>
      let (s, more) := Store.create t (some (found.toList.map fun p => (.text p.1, .text p.2)))
      (.ok s, events ++ more)

/-- Stores and cursors by name. -/
structure Session where
  /-- The content of files. -/
  files : Properties.Files
  /-- The current directory. -/
  here : Path
  /-- The stores. -/
  stores : OrderedMap String Store
  /-- The pairs that each cursor has still to show. -/
  cursors : OrderedMap String (List (StoredKey × String))

namespace Session

/-- A step of a session. -/
inductive Step where
  /-- Make a store. -/
  | create (name : String) (t : Tables) (seed : Option (List (Value × Value)))
  /-- Fail to make a store because the pairs to start from break off. -/
  | abandon (name : String) (seed : List (Value × Value)) (fault : Fault)
  /-- Make a store from a properties file. -/
  | load (name : String) (t : Tables) (path : Path)
  /-- Call a store. -/
  | call (name : String) (r : Store.Request)
  /-- Write the pairs of another store into a store. -/
  | copy (name source : String)
  /-- A call that fails before it reaches its store; `mutates` says whether it would have
  changed the store. -/
  | refuse (name : String) (mutates : Bool) (fault : Fault)
  /-- Make a cursor. -/
  | open (cursor name : String)
  /-- Show the next pair of a cursor. -/
  | next (cursor : String)
  /-- Show the pairs that are left of a cursor. -/
  | rest (cursor : String)
  deriving Inhabited

/-- What a step answers. -/
inductive Answer where
  /-- Nothing in particular. -/
  | nothing
  /-- What a store answers. -/
  | store (a : Store.Answer)
  /-- The next pair of a cursor, or none at the end. -/
  | next (p : Option (StoredKey × String))
  deriving Inhabited

/-- What a step leads to. -/
structure Reply where
  /-- The answer. -/
  result : Except Fault Answer
  /-- What is logged. -/
  events : List Event
  /-- The pairs of the store afterwards, for steps that change stores. -/
  pairs : Option (List (StoredKey × String))
  deriving Inhabited

/-- The pairs of the store of a name. -/
def pairsOf (s : Session) (name : String) : Option (List (StoredKey × String)) :=
  (s.stores.find? name).map Store.toList

/-- A session in which a store has been called. -/
def call (s : Session) (name : String) (r : Store.Request) : Reply × Session :=
  match s.stores.find? name with
  | none => (⟨.error .unknownStore, [], none⟩, s)
  | some store =>
    let o := store.perform r
    let s := { s with stores := s.stores.insert name o.store }
    (⟨o.result.map .store, o.events, if r.mutates then s.pairsOf name else none⟩, s)

/-- The first pair to start from whose key cannot be one. -/
def unusableSeed? (seed : List (Value × Value)) : Option Fault :=
  (seed.find? fun p => !p.1.isHashable).map fun p => .unusableKey p.1.kindName

/-- A session in which no store has a name, because its making failed. -/
def failed (s : Session) (name : String) (fault : Fault) : Reply × Session :=
  (⟨.error fault, [], none⟩, { s with stores := s.stores.erase name })

/-- One step of a session. -/
def perform (s : Session) : Step → Reply × Session
  | .create name t seed =>
    match unusableSeed? (seed.getD []) with
    | some fault => s.failed name fault
    | none =>
      let (store, events) := Store.create t seed
      let s := { s with stores := s.stores.insert name store }
      (⟨.ok (.store .done), events, s.pairsOf name⟩, s)
  | .abandon name seed fault => s.failed name ((unusableSeed? seed).getD fault)
  | .load name t path =>
    match Store.ofFile s.files s.here path t with
    | (.error fault, events) =>
      (⟨.error fault, events, none⟩, { s with stores := s.stores.erase name })
    | (.ok store, events) =>
      let s := { s with stores := s.stores.insert name store }
      (⟨.ok (.store .done), events, s.pairsOf name⟩, s)
  | .call name r => s.call name r
  | .copy name source =>
    match s.stores.find? source with
    | none => (⟨.error .unknownStore, [], s.pairsOf name⟩, s)
    | some other => s.call name (.setAll other.toList)
  | .refuse name mutates fault =>
    match s.stores.find? name with
    | none => (⟨.error .unknownStore, [], none⟩, s)
    | some store =>
      (⟨.error fault, [], if mutates then some store.toList else none⟩, s)
  | .open cursor name =>
    match s.stores.find? name with
    | none => (⟨.error .unknownStore, [], none⟩, s)
    | some store =>
      (⟨.ok .nothing, [], none⟩, { s with cursors := s.cursors.insert cursor store.toList })
  | .next cursor =>
    let left := (s.cursors.find? cursor).getD []
    (⟨.ok (.next left.head?), [], none⟩,
      { s with cursors := s.cursors.insert cursor left.tail })
  | .rest cursor =>
    let left := (s.cursors.find? cursor).getD []
    (⟨.ok (.store (.pairs left)), [], none⟩, { s with cursors := s.cursors.insert cursor [] })

/-- What the steps of a session answer. -/
def run (s : Session) : List Step → List Reply
  | [] => []
  | step :: steps =>
    let (reply, s) := s.perform step
    reply :: run s steps

end Session

end Settings
