import SerialFrame.Bytes.Lemmas
import SerialFrame.Checksum.Splice

/-!
# Where a checksum goes

`Splice.of?_eq_some`: the offsets of a splice lie in the buffer it was made for, and its value is the
checksum of the bytes between them.
-/

namespace SerialFrame

/-- The bytes at the offsets from `start` up to and without `stop`. -/
def Bytes.slice (bytes : Bytes) (start stop : Nat) : Bytes :=
  (bytes.take stop).drop start

namespace Checksum

theorem splitIndex_le (length : Nat) (endIndex : Int) : (splitIndex length endIndex).1 ≤ length := by
  unfold splitIndex
  split
  · exact Nat.le_refl _
  · split
    · exact Nat.sub_le _ _
    · exact Nat.zero_le _

theorem Splice.of?_eq_some {config : ChecksumConfig} {buffer : Bytes} {s : Splice}
    (h : Splice.of? config buffer = some s) :
    Algorithm.ofName? config.algorithm = some s.algorithm ∧ s.start ≤ s.offset ∧
      s.offset ≤ buffer.length ∧
      s.value = s.algorithm.checksumBytes (buffer.slice s.start s.offset) config.byteOrder := by
  obtain ⟨algorithm, halgorithm, rfl⟩ := Option.map_eq_some_iff.mp h
  exact ⟨halgorithm, Nat.min_le_right _ _, splitIndex_le _ _, rfl⟩

theorem Splice.of?_whole {config : ChecksumConfig} {algorithm : Algorithm}
    (hname : Algorithm.ofName? config.algorithm = some algorithm) (hstart : config.startIndex = 0)
    (hend : 0 ≤ config.endIndex.toInt) (buffer : Bytes) :
    Splice.of? config buffer =
      some { algorithm, start := 0, offset := buffer.length
             value := algorithm.checksumBytes buffer config.byteOrder, clamped := false } := by
  simp [Splice.of?, hname, hstart, splitIndex, hend]

theorem Splice.length_value {config : ChecksumConfig} {buffer : Bytes} {s : Splice}
    (h : Splice.of? config buffer = some s) : s.value.length = s.algorithm.width := by
  rw [(of?_eq_some h).2.2.2, Algorithm.length_checksumBytes]

theorem Algorithm.width_pos (a : Algorithm) : 0 < a.width := by
  cases a <;> decide

theorem Algorithm.decode_checksumBytes (a : Algorithm) (data : Bytes) (order : Option ByteOrder) :
    (order.getD a.naturalOrder).decode (a.checksumBytes data order) = (a.compute data).toNat := by
  have hfits : (a.compute data).toNat < 256 ^ a.width := by
    have hlt := (a.compute data).isLt
    rwa [Nat.pow_mul] at hlt
  rw [checksumBytes, ByteOrder.decode_encode, Nat.mod_eq_of_lt hfits]

end Checksum

end SerialFrame
