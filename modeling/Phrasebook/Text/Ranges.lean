/-!
# Ranges of code points

Sets of characters are kept as ranges of code points in increasing order.
-/

namespace Phrasebook.Text

/-- Whether a number lies in one of several increasing ranges. -/
def inRanges : List (Nat × Nat) → Nat → Bool
  | [], _ => false
  | (low, high) :: rest, n => if n < low then false else if n ≤ high then true else inRanges rest n

end Phrasebook.Text
