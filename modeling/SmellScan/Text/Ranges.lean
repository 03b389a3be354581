/-!
# Sets of code points

A property of characters is a list of ranges of code points, both ends included, in ascending
order.
-/

namespace SmellScan.Text

/-- A set of code points as ranges, both ends included. -/
abbrev Ranges := List (Nat × Nat)

/-- A code point lies in one of the ranges. -/
def Ranges.contains (ranges : Ranges) (n : Nat) : Bool :=
  ranges.any fun (first, last) => first ≤ n && n ≤ last

end SmellScan.Text
