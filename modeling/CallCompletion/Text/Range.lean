/-!
# Character classes given by code point ranges

A class of characters beyond ASCII is a list of increasing closed ranges of code points; membership
is a scan that stops at the first range that lies above the point.
-/

namespace CallCompletion.Text

/-- Membership of a code point in increasing closed ranges. -/
def inRanges : List (Nat × Nat) → Nat → Bool
  | [], _ => false
  | (lo, hi) :: rest, n => if n < lo then false else n ≤ hi || inRanges rest n

/-- The offset of a code point in the range that holds it. -/
def rangeOffset? : List (Nat × Nat) → Nat → Option Nat
  | [], _ => none
  | (lo, hi) :: rest, n =>
    if n < lo then none else if n ≤ hi then some (n - lo) else rangeOffset? rest n

end CallCompletion.Text
