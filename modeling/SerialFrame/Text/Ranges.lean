/-!
# Sets of characters given by ranges of code points

A set is an array of closed ranges; `InRanges` is membership.
-/

namespace SerialFrame.Text

/-- Closed ranges of code points, in ascending order. -/
abbrev Ranges := Array (Nat × Nat)

def Ranges.holds (ranges : Ranges) (c : Char) : Bool :=
  ranges.any fun r => r.1 ≤ c.toNat && c.toNat ≤ r.2

end SerialFrame.Text
