/-!
# Membership in a table of characters

A class of characters is a sorted list of ranges of code points, both ends included.
-/

namespace TexMend.Text

/-- Is `n` in one of the ranges? The search ends at the first range that starts above `n`. -/
def inRanges (n : Nat) : List (Nat × Nat) → Bool
  | [] => false
  | (low, high) :: rest => low ≤ n && (n ≤ high || inRanges n rest)

end TexMend.Text
