import Mathlib.Algebra.Group.Nat.Defs

/-!
# Words

A number that is worked out in a machine word has to fit into it. Where every step of a calculation
is put through `Word.ofInt?`, a result at all means that no step ran over.
-/

namespace SerialFrame.Word

/-- The unsigned word of `bits` bits that holds `n`; none if `n` does not fit. -/
def ofInt? (bits : Nat) (n : Int) : Option Nat :=
  if 0 ≤ n ∧ n.toNat < 2 ^ bits then some n.toNat else none

theorem ofInt?_natCast {bits n : Nat} (h : n < 2 ^ bits) : ofInt? bits n = some n :=
  if_pos ⟨Int.natCast_nonneg n, h⟩

theorem ofInt?_of_neg {bits : Nat} {n : Int} (h : n < 0) : ofInt? bits n = none :=
  if_neg fun hfits => absurd hfits.1 (Int.not_le.mpr h)

end SerialFrame.Word
