import Settings.Text.Split

/-!
# Paths

A path is anchored nowhere, at the root, or at the root written with two slashes,
and has components.  Writing a path as text and reading it back drops what does not
matter: empty components, the component `.` and slashes at the end.

## Main definitions

* `Path`, `Path.ofString`, `Path.text` — paths and their text.
* `Path.join` — a path seen from another.
* `Path.resolve` — the absolute path that a path names seen from a directory, with
  each `..` taking back the component before it.
-/

namespace Settings

/-- What the components of a path start from. -/
inductive Anchor where
  /-- The directory the path is seen from. -/
  | relative
  /-- The root. -/
  | root
  /-- The root, written with exactly two slashes. -/
  | doubleRoot
  deriving DecidableEq, Repr, Inhabited

/-- The slashes of an anchor. -/
def Anchor.text : Anchor → String
  | .relative => ""
  | .root => "/"
  | .doubleRoot => "//"

/-- A path. -/
structure Path where
  /-- What the components start from. -/
  anchor : Anchor
  /-- The components. -/
  components : List String
  deriving DecidableEq, Repr, Inhabited

namespace Path

/-- The anchor that the slashes at the start of a text stand for. -/
def anchorOf (cs : List Char) : Anchor :=
  match (cs.takeWhile (· == '/')).length with
  | 0 => .relative
  | 2 => .doubleRoot
  | _ => .root

/-- The path that a text names. -/
def ofString (s : String) : Path :=
  let parts := (Text.splitOn '/' s.toList).map String.ofList
  ⟨anchorOf s.toList, parts.filter fun part => part != "" && part != "."⟩

/-- The text of a path; the directory it is seen from is `.`. -/
def text (p : Path) : String :=
  match p.anchor, p.components with
  | .relative, [] => "."
  | anchor, components => anchor.text ++ String.intercalate "/" components

/-- The path starts at a root. -/
def isAbsolute (p : Path) : Bool := p.anchor != .relative

/-- The path `p` seen from `base`. -/
def join (base p : Path) : Path :=
  if p.isAbsolute then p else ⟨base.anchor, base.components ++ p.components⟩

/-- The components after one more: `..` takes one back, or none at the root. -/
def step (components : List String) (name : String) : List String :=
  if name = ".." then components.dropLast else components ++ [name]

/-- The path seen from a directory `base`, as an absolute path without `..`. -/
def resolve (base p : Path) : Path := ⟨.root, (base.join p).components.foldl step []⟩

/-- A component has the character U+0000, which no file system takes. -/
def hasNull (p : Path) : Bool := p.components.any fun name => name.toList.contains '\x00'

@[simp] theorem join_of_isAbsolute {base p : Path} (h : p.isAbsolute = true) :
    base.join p = p := by
  rw [join, if_pos h]

end Path

end Settings
