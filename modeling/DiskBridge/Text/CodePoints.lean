/-!
# Sets of code points

A set of code points as a list of ranges, first and last.
-/

namespace DiskBridge

abbrev CodePoints := List (Nat × Nat)

namespace CodePoints

def contains (ranges : CodePoints) (code : Nat) : Bool :=
  ranges.any fun (first, last) => first ≤ code && code ≤ last

end CodePoints

end DiskBridge
