/-!
# Sets of code points

Character classes of Unicode are finite unions of ranges. `CodeRanges` lists the ranges of one
class and `CodeRanges.covers` decides membership of a character.
-/

set_option autoImplicit false

namespace EventAlgebra.Text

/-- A set of code points, as closed ranges in increasing order. -/
abbrev CodeRanges := List (Nat × Nat)

/-- Membership of a character in one of the ranges. -/
def CodeRanges.covers (ranges : CodeRanges) (c : Char) : Bool :=
  ranges.any fun range => range.1 ≤ c.toNat && c.toNat ≤ range.2

/-- A character is covered exactly when its code point lies in one of the ranges. -/
theorem CodeRanges.covers_iff (ranges : CodeRanges) (c : Char) :
    ranges.covers c = true ↔ ∃ range ∈ ranges, range.1 ≤ c.toNat ∧ c.toNat ≤ range.2 := by
  simp [covers]

end EventAlgebra.Text
