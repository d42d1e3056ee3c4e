import Wordsmith.Text.Basic

/-!
# Classes of code points as ranges
-/

namespace Wordsmith.CodePoint

/-- `n` lies in one of the closed ranges, which are given in ascending order. -/
def inRanges : (ranges : List (Nat × Nat)) → (n : Nat) → Bool
  | [], _ => false
  | (lo, hi) :: rest, n => if n < lo then false else n ≤ hi || inRanges rest n

end Wordsmith.CodePoint
