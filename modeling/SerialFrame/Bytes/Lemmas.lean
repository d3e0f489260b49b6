import Mathlib.Algebra.Group.Nat.Defs
import SerialFrame.Bytes.Order

/-!
# Reading back what was written

An integer written in `width` bytes reads back modulo `256 ^ width`, in either byte order: only what
does not fit is lost.
-/

namespace SerialFrame

namespace Bytes

theorem littleValue_littleEndian (width n : Nat) :
    littleValue (littleEndian width n) = n % 256 ^ width := by
  induction width generalizing n with
  | zero => simp [littleEndian, littleValue, Nat.mod_one]
  | succ width ih =>
    simp only [littleEndian, littleValue, ih, UInt8.toNat_ofNat']
    have h : 256 ^ (width + 1) = 256 * 256 ^ width := Nat.pow_succ'
    rw [h, Nat.mod_mul]

end Bytes

namespace ByteOrder

theorem decode_encode (order : ByteOrder) (n width : Nat) :
    order.decode (order.encode n width) = n % 256 ^ width := by
  cases order <;>
    simp [encode, decode, Bytes.value_reverse, Bytes.littleValue_littleEndian]

end ByteOrder

end SerialFrame
