/-!
# Sets of characters

A set of characters is a list of ranges of code points.
-/

namespace PeripheralBridge

/-- Ranges of code points, the first and the last of each. -/
abbrev CodeRanges := List (Nat × Nat)

namespace CodeRanges

def has (ranges : CodeRanges) (c : Char) : Bool :=
  ranges.any fun r => r.1 ≤ c.toNat && c.toNat ≤ r.2

end CodeRanges

end PeripheralBridge
