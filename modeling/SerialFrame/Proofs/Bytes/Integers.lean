import SerialFrame.Bytes.Words
import SerialFrame.Proofs.Checksum.Splice
import SerialFrame.Proofs.Counter.Value
import SerialFrame.Token.Timestamp

/-!
# Embedded integers

Whatever stands in a frame as an integer reads back from it: `integers_decode_back` says how much of
it does, for integers in general, for timestamps and for checksums. It makes no difference whether
the bytes are taken from a machine word (`encodeWord_eq_encode`).
-/

namespace SerialFrame

namespace Bytes

theorem toUInt8_shiftRight (value shift : UInt64) :
    (value >>> shift).toUInt8 = UInt8.ofNat (value.toNat / 2 ^ (shift.toNat % 64)) := by
  apply UInt8.toNat_inj.mp
  rw [UInt64.toNat_toUInt8, UInt64.toNat_shiftRight, Nat.shiftRight_eq_div_pow,
    UInt8.toNat_ofNat']

theorem ofWord_eq_encode (value : UInt64) : ofWord value = ByteOrder.big.encode value.toNat 8 := by
  simp [ofWord, ByteOrder.encode, littleEndian, toUInt8_shiftRight, Nat.div_div_eq_div_mul]

theorem value_ofWord (value : UInt64) : (ofWord value).value = value.toNat := by
  have hfits : value.toNat < 256 ^ 8 := value.toNat_lt
  have hread := ByteOrder.decode_encode .big value.toNat 8
  rw [Nat.mod_eq_of_lt hfits] at hread
  rw [ofWord_eq_encode]
  exact hread

end Bytes

namespace ByteOrder

theorem encode_mod (order : ByteOrder) (n width : Nat) :
    order.encode (n % 256 ^ width) width = order.encode n width := by
  cases order <;> simp only [encode, Bytes.littleEndian_mod]

theorem encodeWord_eq_encode (order : ByteOrder) (value : UInt64) (width : Nat) :
    order.encodeWord value width = order.encode value.toNat width := by
  have hfitted : (if width ≤ (Bytes.ofWord value).length
      then (Bytes.ofWord value).drop ((Bytes.ofWord value).length - width)
      else List.replicate (width - (Bytes.ofWord value).length) 0 ++ Bytes.ofWord value) =
      big.encode value.toNat width := by
    rw [← Bytes.value_ofWord value, ← Counter.fitWidth_eq_encode, Counter.fitWidth, Counter.fit]
    split
    · next hnarrow =>
      rw [Nat.sub_eq_zero_of_le hnarrow]
      rfl
    · next hwide =>
      rw [Nat.sub_eq_zero_of_le (Nat.le_of_not_le hwide)]
      rfl
  cases order with
  | big => exact hfitted
  | little => exact (congrArg List.reverse hfitted).trans (List.reverse_reverse _)

end ByteOrder

namespace TimestampConfig

variable (config : TimestampConfig) (now : Clock)

theorem toNat_word : (config.word now).toNat = config.reading now % 256 ^ config.format.width := by
  have hmillis := now.millis.toNat_lt
  unfold word reading
  cases config.format with
  | seconds => exact (UInt64.toNat_and ..).trans (Nat.and_two_pow_sub_one_eq_mod _ 32)
  | milliseconds => exact (Nat.mod_eq_of_lt hmillis).symm

theorem bytes_eq_encodeWord :
    config.bytes now = config.byteOrder.encodeWord (config.word now) config.format.width := by
  rw [ByteOrder.encodeWord_eq_encode, toNat_word, ByteOrder.encode_mod, bytes]

theorem decode_bytes :
    config.byteOrder.decode (config.bytes now) =
      config.reading now % 256 ^ config.format.width :=
  ByteOrder.decode_encode ..

end TimestampConfig

theorem Checksum.Algorithm.toNat_compute_lt (a : Algorithm) (data : Bytes) :
    (a.compute data).toNat < UInt64.size := by
  have hwidth : 8 * a.width ≤ 64 := by cases a <;> decide
  exact lt_of_lt_of_le (a.compute data).isLt (Nat.pow_le_pow_right (Nat.succ_pos 1) hwidth)

open Checksum in
/-- An integer of 64 bits in `width` bytes reads back modulo `256 ^ width`, so in eight bytes or
more it reads back as it was. A timestamp has four bytes that give the seconds modulo `2 ^ 32`, or
eight that give the milliseconds. The bytes of a checksum give the whole checksum. -/
theorem ByteOrder.integers_decode_back :
    (∀ (order : ByteOrder) (value : UInt64) (width : Nat),
      (order.encode value.toNat width).length = width ∧
      order.decode (order.encode value.toNat width) = value.toNat % 256 ^ width ∧
      (8 ≤ width → order.decode (order.encode value.toNat width) = value.toNat) ∧
      order.encodeWord value width = order.encode value.toNat width) ∧
    (∀ (config : TimestampConfig) (now : Clock),
      (match config.format with
      | .seconds => (config.bytes now).length = 4 ∧
        config.byteOrder.decode (config.bytes now) = now.millis.toNat / 1000 % 2 ^ 32
      | .milliseconds => (config.bytes now).length = 8 ∧
        config.byteOrder.decode (config.bytes now) = now.millis.toNat) ∧
      config.bytes now = config.byteOrder.encodeWord (config.word now) config.format.width) ∧
    ∀ (a : Algorithm) (data : Bytes) (order : Option ByteOrder),
      (a.checksumBytes data order).length = a.width ∧
      (order.getD a.naturalOrder).decode (a.checksumBytes data order) = (a.compute data).toNat ∧
      a.checksumBytes data order =
        (order.getD a.naturalOrder).encodeWord (.ofNat (a.compute data).toNat) a.width := by
  refine ⟨fun order value width => ⟨?_, ?_, fun hwide => ?_, ?_⟩, fun config now => ⟨?_, ?_⟩,
    fun a data order => ⟨?_, ?_, ?_⟩⟩
  · exact length_encode order value.toNat width
  · exact decode_encode order value.toNat width
  · have hfits : value.toNat < 256 ^ width :=
      lt_of_lt_of_le value.toNat_lt (Nat.pow_le_pow_right (Nat.succ_pos 255) hwide)
    rw [decode_encode, Nat.mod_eq_of_lt hfits]
  · exact encodeWord_eq_encode order value width
  · have hlength : (config.bytes now).length = config.format.width := length_encode ..
    have hdecode := config.decode_bytes now
    obtain ⟨format, byteOrder⟩ := config
    cases format with
    | seconds => exact ⟨hlength, hdecode⟩
    | milliseconds => exact ⟨hlength, hdecode.trans (Nat.mod_eq_of_lt now.millis.toNat_lt)⟩
  · exact config.bytes_eq_encodeWord now
  · exact a.length_checksumBytes data order
  · exact a.decode_checksumBytes data order
  · rw [encodeWord_eq_encode, UInt64.toNat_ofNat_of_lt' (a.toNat_compute_lt data)]
    rfl

/-- In ten bytes the zeros stand in front or behind; in two, the high bytes are cut off. -/
theorem ByteOrder.integers_decode_back_padded :
    8 ≤ 10 ∧ big.encode 0x123456789ABCDEF0 10 =
        [0, 0, 0x12, 0x34, 0x56, 0x78, 0x9A, 0xBC, 0xDE, 0xF0] ∧
      big.decode (big.encode 0x123456789ABCDEF0 10) = 0x123456789ABCDEF0 ∧
      little.decode (little.encode 0x123456789ABCDEF0 10) = 0x123456789ABCDEF0 ∧
      little.encode 0x123456789ABCDEF0 2 = [0xF0, 0xDE] ∧
      little.decode (little.encode 0x123456789ABCDEF0 2) = 0xDEF0 := by
  obtain ⟨hintegers, -, -⟩ := integers_decode_back
  obtain ⟨-, -, hbig, -⟩ := hintegers big 0x123456789ABCDEF0 10
  obtain ⟨-, -, hlittle, -⟩ := hintegers little 0x123456789ABCDEF0 10
  obtain ⟨-, hcut, -⟩ := hintegers little 0x123456789ABCDEF0 2
  exact ⟨by decide, by decide, hbig (by decide), hlittle (by decide), by decide, hcut⟩

end SerialFrame
