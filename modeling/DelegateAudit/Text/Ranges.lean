import DelegateAudit.Text.Basic

/-!
# DelegateAudit — range tables

Properties of code points past ASCII are kept as sorted lists of ranges, ends
included. A look-up stops at the first range that lies beyond the number asked for.
-/

namespace DelegateAudit

/-- Does `n` lie in one of the ranges of a sorted table? -/
def inRanges : List (Nat × Nat) → Nat → Bool
  | [], _ => false
  | (lo, hi) :: rest, n => lo ≤ n && (n ≤ hi || inRanges rest n)

end DelegateAudit
