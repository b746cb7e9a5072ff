/-!
Membership of a code point in a table of ranges.
-/

namespace Dialect.Text

/-- The code point lies in one of the ranges, which are listed in increasing order. -/
def inRanges : List (Nat × Nat) → Nat → Bool
  | [], _ => false
  | (first, last) :: rest, n => if n < first then false else n ≤ last || inRanges rest n

end Dialect.Text
