/-!
Membership of a character in a set of code points that is written as a table of ranges.
-/

namespace TagAudit.Text

/-- A set of code points: inclusive ranges, in ascending order. -/
abbrev CodeRanges := List (Nat × Nat)

/-- Whether the code point `n` lies in one of the ranges. The search ends at the first range that
starts above `n`, since the ranges ascend. -/
def CodeRanges.has : CodeRanges → Nat → Bool
  | [], _ => false
  | (low, high) :: rest, n =>
    if n < low then false
    else if n ≤ high then true
    else CodeRanges.has rest n

/-- How far the code point `n` stands from the start of its range. -/
def CodeRanges.offset? : CodeRanges → Nat → Option Nat
  | [], _ => none
  | (low, high) :: rest, n =>
    if n < low then none
    else if n ≤ high then some (n - low)
    else CodeRanges.offset? rest n

end TagAudit.Text
