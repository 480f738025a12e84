/-!
# Sets of characters given by code point ranges

The character classes of this library are data: lists of inclusive ranges of
code points, searched from the front.  `inRanges` reads such a list as a set.
-/

namespace Settings.Text

/-- The character lies in one of the inclusive ranges of code points. -/
def inRanges (ranges : List (Nat × Nat)) (c : Char) : Bool :=
  ranges.any fun r => decide (r.1 ≤ c.toNat) && decide (c.toNat ≤ r.2)

theorem inRanges_iff {ranges : List (Nat × Nat)} {c : Char} :
    inRanges ranges c = true ↔ ∃ r ∈ ranges, r.1 ≤ c.toNat ∧ c.toNat ≤ r.2 := by
  simp [inRanges]

end Settings.Text
