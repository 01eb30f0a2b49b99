/-!
# Ranges of code points

A character property is a table of ranges of code points. A table is a list of pairs, each the first
and the last code point of one range.
-/

namespace PolicyHeader.Text

/-- Ranges of code points, each given by its first and last member. -/
abbrev Ranges := List (Nat × Nat)

namespace Ranges

/-- Whether a character lies in one of the ranges. -/
def contains (ranges : Ranges) (c : Char) : Bool :=
  ranges.any fun range => range.1 ≤ c.toNat && c.toNat ≤ range.2

theorem contains_iff (ranges : Ranges) (c : Char) :
    ranges.contains c = true ↔ ∃ range ∈ ranges, range.1 ≤ c.toNat ∧ c.toNat ≤ range.2 := by
  simp [contains]

end Ranges

end PolicyHeader.Text
