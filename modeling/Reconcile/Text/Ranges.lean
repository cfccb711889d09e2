/-!
# Ranges of code points

A character class is a list of closed ranges of code points, ascending and apart. This module
holds the one search in such a list; the classes themselves stand in modules named for the
property they list, each taken from version 14.0 of the Unicode character database.
-/

namespace Reconcile.Text

/-- Closed ranges of code points, ascending and apart. -/
abbrev Ranges := List (Nat × Nat)

/-- Whether a code point lies in one of the ranges. As the ranges ascend, the search ends at the
    first one that begins beyond the code point. -/
def Ranges.has : Ranges → Nat → Bool
  | [], _ => false
  | (lo, hi) :: rest, n => if n < lo then false else n ≤ hi || Ranges.has rest n

end Reconcile.Text
