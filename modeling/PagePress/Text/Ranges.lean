/-!
# Ranges of code points

A class of characters is given as a list of closed ranges of code points, ascending and apart.
-/

namespace PagePress.Text

/-- Whether `n` lies in one of the ascending closed ranges. -/
def inRanges : List (Nat × Nat) → Nat → Bool
  | [], _ => false
  | (first, last) :: rest, n => if n < first then false else n ≤ last || inRanges rest n

end PagePress.Text
