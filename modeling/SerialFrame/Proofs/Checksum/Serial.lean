import SerialFrame.Checksum.Algorithm
import SerialFrame.Proofs.Checksum.Register

/-!
# Checksums are bit-serial

The tables are those of the registers, so each of the three algorithms computes what its register
does when the data arrive bit by bit: `compute_eq_serial`. `compute_bit_serial` writes the registers
out.
-/

namespace SerialFrame.Checksum

theorem Register.serial_complement {w : Nat} {r : Register w} (h : r.final = BitVec.allOnes w)
    (data : Bytes) : r.serial data = ~~~ Register.serial { r with final := 0#w } data := by
  have hfeed : Register.feed { r with final := 0#w } r.initial data = r.feed r.initial data := rfl
  rw [serial, serial, h, hfeed, BitVec.xor_allOnes, BitVec.xor_zero]

namespace Algorithm

theorem eight_le_width (a : Algorithm) : 8 ≤ 8 * a.width := by
  cases a <;> decide

theorem table_eq (a : Algorithm) : a.table = a.register.table := by
  cases a <;> rfl

theorem compute_eq_serial (a : Algorithm) (data : Bytes) :
    a.compute data = a.register.serial data := by
  rw [compute, table_eq, Register.runTable_eq_serial a.eight_le_width]

/-- The checksums are those of bit-serial registers: the Modbus and the 32-bit one shift towards the
low end and the CCITT one towards the high end, all of them start with ones, and the 32-bit one is
complemented at the end. The same comes out if a byte is added to the register at once before the
register is shifted eight times. In the form with tables each step moves the register on by a byte
and adds the entry that is looked up, whose number is that of a byte whatever the register holds. -/
theorem compute_bit_serial (data : Bytes) :
    crc16Modbus.compute data =
      Register.serial
        { polynomial := 0xA001#16, initial := 0xFFFF#16, final := 0#16, lowFirst := true } data ∧
    crc16Ccitt.compute data =
      Register.serial
        { polynomial := 0x1021#16, initial := 0xFFFF#16, final := 0#16, lowFirst := false } data ∧
    crc32.compute data =
      ~~~ Register.serial
        { polynomial := 0xEDB88320#32, initial := 0xFFFFFFFF#32, final := 0#32,
          lowFirst := true } data ∧
    (∀ a : Algorithm, a.compute data = a.register.run data) ∧
    ∀ (a : Algorithm) (x : BitVec (8 * a.width)) (b : UInt8),
      ∃ h : a.register.slot x b < 256,
        a.register.absorbTable a.table x b =
          a.register.move 8 x ^^^ a.table.get ⟨a.register.slot x b, h⟩ := by
  refine ⟨compute_eq_serial crc16Modbus data, compute_eq_serial crc16Ccitt data,
    (compute_eq_serial crc32 data).trans (Register.serial_complement rfl data), fun a => ?_,
    fun a x b => ?_⟩
  · rw [compute_eq_serial, Register.run_eq_serial a.eight_le_width]
  · have hslot := Register.slot_eq (r := a.register) a.eight_le_width x b
    refine ⟨hslot ▸ (a.register.index x b).isLt, ?_⟩
    simp only [hslot]
    rfl

end Algorithm

end SerialFrame.Checksum
