/-!
# Byte strings

A frame, a checksum and a counter are lists of bytes. `littleValue` reads such a list as a number,
least significant byte first, and `littleEndian` writes one; `value` reads it the other way round.
-/

namespace SerialFrame

abbrev Bytes := List UInt8

namespace Bytes

def littleValue : Bytes → Nat
  | [] => 0
  | b :: bs => b.toNat + 256 * littleValue bs

/-- The number written by `bytes`, most significant byte first. -/
def value (bytes : Bytes) : Nat :=
  bytes.foldl (fun n b => 256 * n + b.toNat) 0

def littleEndian : Nat → Nat → Bytes
  | 0, _ => []
  | width + 1, n => UInt8.ofNat n :: littleEndian width (n / 256)

theorem length_littleEndian (width n : Nat) : (littleEndian width n).length = width := by
  induction width generalizing n with
  | zero => rfl
  | succ width ih => simp [littleEndian, ih]

theorem value_reverse (bytes : Bytes) : value bytes.reverse = littleValue bytes := by
  induction bytes with
  | nil => rfl
  | cons b bs ih =>
    rw [value] at ih ⊢
    simp only [List.reverse_cons, List.foldl_append, List.foldl_cons, List.foldl_nil, ih,
      littleValue]
    omega

end Bytes

end SerialFrame
