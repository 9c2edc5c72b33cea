/-!
# Ascending ranges of code points

Properties of characters are tables of inclusive ranges.
-/

namespace GhostEdit

/-- Whether a number lies in one of the inclusive ranges. -/
def inRanges (table : List (Nat × Nat)) (n : Nat) : Bool :=
  table.any fun (lo, hi) => lo ≤ n && n ≤ hi

end GhostEdit
