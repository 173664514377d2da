/-!
# Sets of characters as ranges

A property of characters is a table of ranges of code points, in ascending order.
-/

namespace JoinPlan.Text

/-- The ranges of a set of characters, each with its first and its last code point. -/
abbrev Ranges := Array (Nat × Nat)

/-- Whether a character lies in one of the ranges. -/
def Ranges.holds (ranges : Ranges) (c : Char) : Bool :=
  ranges.any fun range => decide (range.1 ≤ c.toNat) && decide (c.toNat ≤ range.2)

end JoinPlan.Text
