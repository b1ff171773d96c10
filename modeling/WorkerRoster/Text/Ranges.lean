/-!
# Code Point Ranges

A property of characters is given as a list of inclusive ranges of code points.
-/

set_option autoImplicit false

namespace WorkerRoster.Text

/-- Whether the code point of `c` lies in one of the inclusive `ranges`. -/
def inRanges (ranges : List (Nat × Nat)) (c : Char) : Bool :=
  ranges.any fun (first, last) => first ≤ c.toNat && c.toNat ≤ last

end WorkerRoster.Text
