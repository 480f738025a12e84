import Settings.Text.CellWidth

/-!
# Clusters

A terminal draws some characters in the place of the one before them: combining marks,
selectors, and what a joiner joins to it.  Characters that share a place make up a cluster,
and a text is cut to a width between clusters only.

## Main definitions

* `Cluster`, `clusters` — the clusters of a text.
* `takeCells` — the start of a text with a given width.
* `chop` — a text in pieces that fit a width.
-/

namespace Settings.Text

/-- Characters that are drawn in one place. -/
structure Cluster where
  /-- The characters. -/
  chars : List Char
  /-- The number of terminal cells. -/
  width : Nat
  deriving DecidableEq, Repr, Inhabited

/-- A cluster with more characters and more cells. -/
def Cluster.add (k : Cluster) (cs : List Char) (width : Nat) : Cluster :=
  ⟨k.chars ++ cs, k.width + width⟩

/-- The clusters of a text after an unfinished one and a last character with a width. -/
def clustersAfter (k : Cluster) (last : Option Char) : List Char → List Cluster
  | [] => [k]
  | c :: cs =>
    if c = joiner then
      match cs with
      | [] => [k.add [c] 0]
      | d :: rest => clustersAfter (k.add [c, d] 0) last rest
    else if c = wideSelector then clustersAfter (k.add [c] (addedWidth last)) none cs
    else if cellWidth c = 0 then clustersAfter (k.add [c] 0) last cs
    else k :: clustersAfter ⟨[c], cellWidth c⟩ (some c) cs

/-- The clusters of a text.  A first character without a width is one of its own. -/
def clusters : List Char → List Cluster
  | [] => []
  | c :: cs => clustersAfter ⟨[c], cellWidth c⟩ (if cellWidth c = 0 then none else some c) cs

/-! ### Cutting -/

/-- The characters of the first clusters, as many as fit a number of cells; a space stands for
the half of one that fits half. -/
def takeClusters : Nat → List Cluster → List Char
  | 0, _ => []
  | _, [] => []
  | n, k :: ks => if k.width ≤ n then k.chars ++ takeClusters (n - k.width) ks else [' ']

/-- The start of a text with a width. -/
def takeCells (n : Nat) (cs : List Char) : List Char := takeClusters n (clusters cs)

/-- Clusters in pieces that fit a width, after an unfinished piece and its width. -/
def chopAfter (width : Nat) (piece : List Char) (size : Nat) : List Cluster → List (List Char)
  | [] => if size = 0 then [] else [piece]
  | k :: ks =>
    if width < size + k.width then piece :: chopAfter width k.chars k.width ks
    else chopAfter width (piece ++ k.chars) (size + k.width) ks

/-- A text in pieces that fit a width.  What has no width at the end is left out. -/
def chop (width : Nat) (cs : List Char) : List (List Char) := chopAfter width [] 0 (clusters cs)

end Settings.Text
