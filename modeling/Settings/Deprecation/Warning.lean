import Settings.Entry
import Settings.OrderedMap

/-!
# Deprecation tables and warnings

Two tables describe the keys that are going away.  The table of *alternatives* maps a
current key to the old key that used to hold its setting; the table of *deprecated*
keys lists keys that have no replacement.  Writing an old key warns about it.

## Main definitions

* `DeprecationTable`, `Tables` — the tables.
* `Replacement`, `reverseTable` — from old keys to the current ones: when several
  current keys share an old key, the last row of the table wins.
* `Warning`, `Warning.message` — the warnings.
-/

namespace Settings

/-- A table of deprecations by key. -/
abbrev DeprecationTable := OrderedMap String Deprecation

/-- The two tables. -/
structure Tables where
  /-- From a current key to the deprecation of its old key. -/
  alternatives : DeprecationTable
  /-- From a deprecated key to its deprecation. -/
  deprecated : DeprecationTable
  deriving Inhabited

/-- A current key, with the deprecation of its old key. -/
structure Replacement where
  /-- The current key. -/
  newKey : String
  /-- The deprecation of the old key. -/
  deprecation : Deprecation
  deriving DecidableEq, Repr, Inhabited

/-- A row of the table of alternatives, seen from the old key. -/
def reverseRow (row : String × Deprecation) : String × Replacement := (row.2.key, ⟨row.1, row.2⟩)

/-- The table of alternatives from old keys to current ones. -/
def reverseTable (alternatives : DeprecationTable) : OrderedMap String Replacement :=
  .ofList (alternatives.toList.map reverseRow)

/-- A warning about a key that is written. -/
inductive Warning where
  /-- The key has been replaced. -/
  | replaced (key : String) (replacement : Replacement)
  /-- The key is going away. -/
  | discontinued (deprecation : Deprecation)
  deriving DecidableEq, Repr, Inhabited

/-- The sentence with which every warning begins. -/
def Warning.announcement (key version : String) : String :=
  s!"The configuration key {key} has been deprecated as of {version} " ++
    "and may be removed in the future."

/-- The wording of a warning. -/
def Warning.message : Warning → String
  | .replaced key r =>
    s!"{announcement key r.deprecation.version} Please use the new key {r.newKey} instead."
  | .discontinued d => s!"{announcement d.key d.version} {d.advice}"

end Settings
