/-!
# Sets of characters by ranges

Character properties are kept as lists of closed ranges of code points.
-/

namespace Stencil.Text

/-- A set of characters, given by closed ranges of code points. -/
abbrev CharRanges := List (Nat × Nat)

namespace CharRanges

/-- Whether one of the ranges holds the character. -/
def contains (ranges : CharRanges) (c : Char) : Bool :=
  ranges.any fun range => decide (range.1 ≤ c.toNat ∧ c.toNat ≤ range.2)

theorem contains_iff {ranges : CharRanges} {c : Char} :
    ranges.contains c = true ↔
      ∃ range ∈ ranges, range.1 ≤ c.toNat ∧ c.toNat ≤ range.2 := by
  simp [contains]

end CharRanges

end Stencil.Text
