import Mathlib.Data.List.Basic
import SerialFrame.Proofs.Checksum.Serial

/-!
# Data with their checksum behind them

Sent in the order of the register, the bytes of a word arrive as its bits (`stream_encode`). A
register that takes in what it holds is emptied, so behind any data their own checksum leaves the
same behind: `serial_append_self`. `compute_append_checksumBytes` says so of the algorithms.
-/

namespace SerialFrame.Checksum

namespace Register

/-! ### The bytes of a word -/

theorem flatMap_littleEndian (width n : Nat) :
    (Bytes.littleEndian width n).flatMap (fun b => (List.range 8).map b.toBitVec.getLsbD) =
      (List.range (8 * width)).map n.testBit := by
  induction width generalizing n with
  | zero => rfl
  | succ width ih =>
    have hlow : (List.range 8).map (UInt8.ofNat n).toBitVec.getLsbD =
        (List.range 8).map n.testBit := by
      refine List.map_congr_left fun i hi => ?_
      rw [UInt8.toBitVec_ofNat', BitVec.getLsbD_ofNat, decide_eq_true (List.mem_range.mp hi),
        Bool.true_and]
    have hhigh : (List.range (8 * width)).map (n / 256).testBit =
        (List.range (8 * width)).map (n.testBit ∘ (8 + ·)) := by
      refine List.map_congr_left fun i _ => ?_
      show (n / 2 ^ 8).testBit i = n.testBit (8 + i)
      rw [Nat.testBit_div_two_pow, Nat.add_comm]
    rw [Bytes.littleEndian, List.flatMap_cons, ih, hlow, hhigh, Nat.mul_succ, Nat.add_comm,
      List.range_add, List.map_append, List.map_map]

theorem map_getMsbD_range {v : Nat} (x : BitVec v) :
    (List.range v).map x.getMsbD = ((List.range v).map x.getLsbD).reverse := by
  refine List.ext_getElem (by simp) fun i hi _ => ?_
  have hi : i < v := by simpa using hi
  simp [BitVec.getMsbD_eq_getLsbD, hi]

theorem bits_of_lowFirst {v w : Nat} {r : Register w} (h : r.lowFirst = true) (x : BitVec v) :
    r.bits x = (List.range v).map x.getLsbD :=
  List.map_congr_left fun _ _ => if_pos h

theorem bits_of_highFirst {v w : Nat} {r : Register w} (h : r.lowFirst = false) (x : BitVec v) :
    r.bits x = ((List.range v).map x.getLsbD).reverse := by
  have hfirst : ¬ r.lowFirst = true := Bool.eq_false_iff.mp h
  rw [← map_getMsbD_range]
  exact List.map_congr_left fun _ _ => if_neg hfirst

variable {n : Nat} {r : Register (8 * n)}

theorem stream_encode (x : BitVec (8 * n)) : r.stream (r.order.encode x.toNat n) = r.bits x := by
  have hlow : (List.range (8 * n)).map x.toNat.testBit = (List.range (8 * n)).map x.getLsbD := rfl
  cases hfirst : r.lowFirst with
  | true =>
    have horder : r.order = .little := if_pos hfirst
    rw [horder, bits_of_lowFirst hfirst, ← hlow, ← flatMap_littleEndian]
    exact List.flatMap_congr fun b _ => bits_of_lowFirst hfirst b.toBitVec
  | false =>
    have horder : r.order = .big := if_neg (Bool.eq_false_iff.mp hfirst)
    rw [horder, bits_of_highFirst hfirst, ← hlow, ← flatMap_littleEndian, List.reverse_flatMap]
    exact List.flatMap_congr fun b _ => bits_of_highFirst hfirst b.toBitVec

/-! ### A register that takes in what it holds -/

/-- What a register holds goes out while it comes in, and what is added to it remains to be taken
in by an empty register. -/
theorem feed_own (x y : BitVec (8 * n)) :
    r.feed x (r.order.encode (x ^^^ y).toNat n) = (r.bits y).foldl r.clock 0#(8 * n) := by
  have hempty : (r.bits x).foldl r.clock x = 0#(8 * n) :=
    (foldl_clock_self _ x).trans (move_eq_zero fun i hi => bit_of_le x hi)
  have hlength : (r.bits x).length = (r.bits y).length := by rw [length_bits, length_bits]
  have hsum := foldl_clock_xor (r := r) hlength x 0#(8 * n)
  rwa [BitVec.xor_zero, hempty, BitVec.zero_xor, ← bits_xor, ← stream_encode] at hsum

theorem serial_append_self (data : Bytes) :
    r.serial (data ++ r.order.encode (r.serial data).toNat n) = r.residue := by
  rw [serial, serial, feed_append, feed_own]
  rfl

theorem residue_eq_zero (h : r.final = 0#(8 * n)) : r.residue = 0#(8 * n) := by
  have hbits : (r.bits 0#(8 * n)).foldl r.clock 0#(8 * n) = r.move (8 * n) 0#(8 * n) :=
    foldl_clock_self _ _
  rw [residue, h, hbits, BitVec.xor_zero]
  exact move_eq_zero fun i _ => bit_zero i

end Register

namespace Algorithm

/-- The byte order in which an algorithm has to send its checksums so that frames check
themselves. -/
def checkOrder : Algorithm → ByteOrder
  | crc16Modbus => .little
  | crc16Ccitt => .big
  | crc32 => .little

def remainder : (a : Algorithm) → BitVec (8 * a.width)
  | crc16Modbus => 0#16
  | crc16Ccitt => 0#16
  | crc32 => 0x2144DF1C#32

theorem order_register (a : Algorithm) : a.register.order = a.checkOrder := by
  cases a <;> rfl

theorem residue_register (a : Algorithm) : a.register.residue = a.remainder := by
  cases a with
  | crc16Modbus | crc16Ccitt => exact Register.residue_eq_zero rfl
  | crc32 => exact BitVec.eq_of_toNat_eq (by decide +kernel)

theorem compute_append_checksumBytes {a : Algorithm} {order : Option ByteOrder}
    (horder : order.getD a.naturalOrder = a.checkOrder) (data : Bytes) :
    a.compute (data ++ a.checksumBytes data order) = a.remainder := by
  rw [compute_eq_serial, checksumBytes, horder, compute_eq_serial, ← order_register,
    Register.serial_append_self, residue_register]

end Algorithm

end SerialFrame.Checksum
