import Settings.Path

/-!
# File trees

A tree of directories and regular files under the root.  Opening a path walks down
from the root one component at a time: every component but the last has to be a
directory, and `..` leads back to the directory above.

## Main definitions

* `FileTree` — the regular files with their octets, and the directories.
* `FileTree.read` — the octets of the regular file that an absolute path leads to.
-/

namespace Settings

/-- Directories and regular files, each by its components from the root. -/
structure FileTree where
  /-- The regular files and their octets. -/
  files : List (List String × List UInt8)
  /-- The directories, apart from those above a file or directory. -/
  directories : List (List String)
  deriving Repr, Inhabited

namespace FileTree

/-- A directory has these components. -/
def isDirectory (t : FileTree) (components : List String) : Bool :=
  t.directories.any (components.isPrefixOf ·)
    || t.files.any (fun f => components.isPrefixOf f.1.dropLast)
    || components.isEmpty

/-- The components from the root of what a walk from a directory leads to. -/
def walk (t : FileTree) (here : List String) : List String → Option (List String)
  | [] => some here
  | name :: names =>
    if t.isDirectory here then walk t (Path.step here name) names else none

/-- The octets of the regular file that an absolute path leads to. -/
def read (t : FileTree) (p : Path) : Option (List UInt8) := do
  let place ← t.walk [] p.components
  t.files.lookup place

end FileTree

end Settings
