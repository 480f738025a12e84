import Settings.Event
import Settings.Fault

/-!
# The index of deprecated keys

The reverse of the table of alternatives is built the first time a check needs it and
stays as it is from then on, even if the table changes; the other look-ups always use
the tables as they are.  The index counts how often it asks for each table.

## Main definitions

* `Index` — the index, empty or built.
* `Index.force` — builds the index if it is empty.
* `Index.alternativeFor` — the deprecation of the old key of a current key.
* `Index.check`, `Index.note` — the warning about a key, returned or logged.
* `Index.Request`, `Index.perform` — the index as a machine, together with its tables.
-/

namespace Settings

/-- The index of deprecated keys. -/
structure Index where
  /-- The reverse of the table of alternatives, once it is built. -/
  built : Option (OrderedMap String Replacement)
  /-- How often the table of alternatives was asked for. -/
  alternativesReads : Nat
  /-- How often the table of deprecated keys was asked for. -/
  deprecatedReads : Nat
  deriving Inhabited

namespace Index

/-- The index before its first use. -/
def fresh : Index := ⟨none, 0, 0⟩

/-- The reverse map that checks use: the one that is built, or else of the current table. -/
def replacements (i : Index) (t : Tables) : OrderedMap String Replacement :=
  i.built.getD (reverseTable t.alternatives)

/-- The index after a use of the reverse map, and what is logged. -/
def force (i : Index) (t : Tables) : Index × List Event :=
  match i.built with
  | some _ => (i, [])
  | none =>
    let r := reverseTable t.alternatives
    (⟨some r, i.alternativesReads + 1, i.deprecatedReads⟩, [.indexBuilt r.size])

/-- The deprecation of the old key of a current key. -/
def alternativeFor (t : Tables) (key : String) : Option Deprecation := t.alternatives.find? key

/-- The index after a look-up of an alternative. -/
def askAlternatives (i : Index) : Index :=
  ⟨i.built, i.alternativesReads + 1, i.deprecatedReads⟩

/-- The warning about a key: a replacement comes before a plain deprecation. -/
def warning? (i : Index) (t : Tables) (key : String) : Option Warning :=
  match (i.replacements t).find? key with
  | some r => some (.replaced key r)
  | none => (t.deprecated.find? key).map .discontinued

/-- The warning about a key, the index afterwards, and what is logged. -/
def check (i : Index) (t : Tables) (key : String) : Option Warning × Index × List Event :=
  let (i, events) := i.force t
  if (i.replacements t).contains key then (i.warning? t key, i, events)
  else (i.warning? t key, ⟨i.built, i.alternativesReads, i.deprecatedReads + 1⟩, events)

/-- Checks a key and logs the warning. -/
def note (i : Index) (t : Tables) (key : String) : Option Warning × Index × List Event :=
  let (warning, i, events) := i.check t key
  (warning, i, events ++ (warning.map Event.deprecated).toList)

/-! ### The index as a machine -/

/-- What can be asked of an index. -/
inductive Request where
  /-- The reverse map. -/
  | replacements
  /-- The deprecation of the old key of a current key. -/
  | alternativeFor (key : String)
  /-- The warning about a key. -/
  | check (key : String)
  /-- To log the warning about a key. -/
  | note (key : String)
  /-- Whether all callers see the same reverse map. -/
  | shared
  /-- To write into the reverse map. -/
  | assign (key : String)
  /-- To put a row into the table of alternatives. -/
  | putAlternative (key : String) (deprecation : Deprecation)
  /-- To put a row into the table of deprecated keys. -/
  | putDeprecated (key : String) (deprecation : Deprecation)
  /-- How often each table was asked for. -/
  | reads
  deriving DecidableEq, Repr, Inhabited

/-- What an index answers. -/
inductive Answer where
  | nothing
  | truth (b : Bool)
  | replacements (rows : List (String × Replacement))
  | deprecation (d : Option Deprecation)
  | warning (w : Option Warning)
  | reads (alternatives deprecated : Nat)
  deriving DecidableEq, Repr, Inhabited

/-- An index with the tables it is over. -/
structure State where
  /-- The index. -/
  index : Index
  /-- The tables as they are now. -/
  tables : Tables
  deriving Inhabited

/-- The state after a request, the answer, and what is logged. -/
def perform (s : State) : Request → Except Fault Answer × State × List Event
  | .replacements =>
    let (i, events) := s.index.force s.tables
    (.ok (.replacements (i.replacements s.tables).toList), ⟨i, s.tables⟩, events)
  | .alternativeFor key =>
    (.ok (.deprecation (alternativeFor s.tables key)), ⟨s.index.askAlternatives, s.tables⟩, [])
  | .check key =>
    let (warning, i, events) := s.index.check s.tables key
    (.ok (.warning warning), ⟨i, s.tables⟩, events)
  | .note key =>
    let (warning, i, events) := s.index.note s.tables key
    (.ok (.truth warning.isSome), ⟨i, s.tables⟩, events)
  | .shared =>
    let (i, events) := s.index.force s.tables
    (.ok (.truth true), ⟨i, s.tables⟩, events)
  | .assign _ =>
    let (i, events) := s.index.force s.tables
    (.error .readOnlyIndex, ⟨i, s.tables⟩, events)
  | .putAlternative key d =>
    let tables := { s.tables with alternatives := s.tables.alternatives.insert key d }
    (.ok .nothing, ⟨s.index, tables⟩, [])
  | .putDeprecated key d =>
    let tables := { s.tables with deprecated := s.tables.deprecated.insert key d }
    (.ok .nothing, ⟨s.index, tables⟩, [])
  | .reads => (.ok (.reads s.index.alternativesReads s.index.deprecatedReads), s, [])

/-- The answers to a list of requests, each with what is logged. -/
def run (s : State) : List Request → List (Except Fault Answer × List Event)
  | [] => []
  | r :: rs =>
    let (answer, s, events) := perform s r
    (answer, events) :: run s rs

end Index

end Settings
