/-!
# Ranges of code points

A character class is a list of closed ranges in ascending order. `Ranges.holds` stops at the first
range that begins beyond the code point asked for.
-/

namespace RouteTree.Text

/-- Closed ranges of code points, ascending and disjoint. -/
abbrev Ranges := List (Nat × Nat)

/-- Is `n` in one of the ranges? -/
def Ranges.holds : Ranges → Nat → Bool
  | [], _ => false
  | (first, last) :: rest, n => decide (first ≤ n) && (decide (n ≤ last) || Ranges.holds rest n)

@[simp] theorem Ranges.holds_nil (n : Nat) : Ranges.holds [] n = false := rfl

end RouteTree.Text
