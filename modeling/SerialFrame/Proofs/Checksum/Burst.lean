import Mathlib.Data.List.GetD
import Mathlib.Tactic.ByContra
import SerialFrame.Proofs.Checksum.Serial
import SerialFrame.Proofs.Checksum.Splice

/-!
# Errors close together are noticed

A register whose polynomial has a last term can be run backwards. Then what it held before it became
empty is what came in since, as long as that is no more than the register holds
(`bit_of_foldl_clock_eq_zero`). So different bits lead to different registers if they are no more
than that, and different registers stay different whatever comes in (`serial_ne`). All three
algorithms have such registers: `bursts_are_detected`.
-/

namespace SerialFrame

namespace Checksum

namespace Register

variable {w : Nat} {r : Register w}

/-- The polynomial is added at the far end of the register too, where nothing is shifted in. -/
def Reversible (r : Register w) : Prop :=
  r.bit r.polynomial (w - 1) = true

theorem bit_of_foldl_clock_eq_zero (h : r.Reversible) {arriving : List Bool}
    (hfits : arriving.length ≤ w) {x : BitVec w} (hempty : arriving.foldl r.clock x = 0#w) {i : Nat}
    (hi : i < w) : r.bit x i = arriving.getD i false := by
  induction arriving generalizing x i with
  | nil =>
    have hx : x = 0#w := hempty
    rw [hx, bit_zero, List.getD_nil]
  | cons b rest ih =>
    rw [List.length_cons] at hfits
    have hrest : ∀ {j}, j < w → r.bit (r.clock x b) j = rest.getD j false := ih (by omega) hempty
    -- The last bit of the register shows whether the polynomial was added.
    have hfirst : r.bit x 0 = b := by
      have hlast := hrest (j := w - 1) (by omega)
      rw [bit_clock, bit_of_le x (by omega), h, List.getD_eq_default _ _ (by omega)] at hlast
      simpa using hlast
    cases i with
    | zero => exact hfirst
    | succ i =>
      rw [List.getD_cons_succ, ← hrest (by omega), clock_of_bit_eq hfirst, bit_move]

theorem eq_of_foldl_clock_eq (h : r.Reversible) {bs cs : List Bool}
    (hlength : bs.length = cs.length) (hfits : bs.length ≤ w) {x : BitVec w}
    (heq : bs.foldl r.clock x = cs.foldl r.clock x) : bs = cs := by
  have hempty : (bs.zipWith (· ^^ ·) cs).foldl r.clock 0#w = 0#w := by
    have hsum := foldl_clock_xor (r := r) hlength x x
    rwa [heq, BitVec.xor_self, BitVec.xor_self] at hsum
  have hzip : (bs.zipWith (· ^^ ·) cs).length ≤ w := by
    rw [List.length_zipWith]
    omega
  refine List.ext_getElem hlength fun i hi hi' => ?_
  have hbit := bit_of_foldl_clock_eq_zero h hzip hempty (i := i) (by omega)
  have hin : i < (bs.zipWith (· ^^ ·) cs).length := by
    rw [List.length_zipWith]
    omega
  rw [bit_zero, List.getD_eq_getElem _ _ hin, List.getElem_zipWith] at hbit
  simpa using hbit.symm

theorem foldl_clock_injective (h : r.Reversible) (hw : 0 < w) {bs : List Bool} {x y : BitVec w}
    (heq : bs.foldl r.clock x = bs.foldl r.clock y) : x = y := by
  induction bs generalizing x y with
  | nil => exact heq
  | cons b bs ih =>
    have hempty : [false].foldl r.clock (x ^^^ y) = 0#w := by
      have hsum := clock_xor (r := r) x y b b
      rwa [ih heq, BitVec.xor_self, Bool.xor_self] at hsum
    have hfits : [false].length ≤ w := hw
    have hnone : x ^^^ y = 0#w := by
      refine eq_of_bit (r := r) fun i hi => ?_
      rw [bit_of_foldl_clock_eq_zero h hfits hempty hi, bit_zero]
      cases i <;> rfl
    exact BitVec.xor_eq_zero_iff.mp hnone

theorem length_stream (data : Bytes) : (r.stream data).length = 8 * data.length := by
  induction data with
  | nil => rfl
  | cons b data ih =>
    rw [stream, List.flatMap_cons, List.length_append, length_bits, List.length_cons]
    change 8 + (r.stream data).length = _
    omega

theorem stream_injective {data data' : Bytes} (heq : r.stream data = r.stream data') :
    data = data' := by
  have hlength : data.length = data'.length := by
    have hlengths := congrArg List.length heq
    rw [length_stream, length_stream] at hlengths
    omega
  induction data generalizing data' with
  | nil => exact (List.eq_nil_of_length_eq_zero hlength.symm).symm
  | cons b data ih =>
    match data', hlength with
    | b' :: data', hlength =>
      rw [stream, stream, List.flatMap_cons, List.flatMap_cons] at heq
      obtain ⟨hbits, hrest⟩ := List.append_inj heq (by rw [length_bits, length_bits])
      rw [UInt8.toBitVec_inj.mp (bits_injective hbits), ih hrest (Nat.succ.inj hlength)]

theorem serial_ne (h : r.Reversible) (hw : 0 < w) {first second : Bytes}
    (hlength : first.length = second.length) (hfits : 8 * first.length ≤ w) (hne : first ≠ second)
    (front back : Bytes) :
    r.serial (front ++ (first ++ back)) ≠ r.serial (front ++ (second ++ back)) := by
  intro heq
  rw [serial, serial, BitVec.xor_left_inj, feed_append, feed_append, feed_append,
    feed_append] at heq
  have hmiddle := foldl_clock_injective h hw heq
  have hstream : (r.stream first).length = (r.stream second).length := by
    rw [length_stream, length_stream, hlength]
  refine hne (stream_injective (eq_of_foldl_clock_eq h hstream ?_ hmiddle))
  rwa [length_stream]

end Register

end Checksum

theorem take_eq_and_drop_eq {α : Type} {xs ys : List α} {start n : Nat}
    (h : ∀ i, xs[i]? ≠ ys[i]? → start ≤ i ∧ i < start + n) :
    xs.take start = ys.take start ∧ xs.drop (start + n) = ys.drop (start + n) := by
  have hsame : ∀ i, i < start ∨ start + n ≤ i → xs[i]? = ys[i]? := by
    intro i hi
    by_contra hne
    have hwithin := h i hne
    omega
  constructor
  · refine List.ext_getElem? fun i => ?_
    rw [List.getElem?_take, List.getElem?_take]
    by_cases hi : i < start
    · rw [if_pos hi, if_pos hi, hsame i (.inl hi)]
    · rw [if_neg hi, if_neg hi]
  · refine List.ext_getElem? fun i => ?_
    rw [List.getElem?_drop, List.getElem?_drop, hsame _ (.inr (Nat.le_add_right _ i))]

namespace Checksum.Algorithm

variable {a : Algorithm}

theorem reversible_register (a : Algorithm) : a.register.Reversible := by
  cases a <;> rfl

theorem compute_ne_of_burst {data data' : Bytes} (start : Nat)
    (hlength : data'.length = data.length) (hne : data' ≠ data)
    (hburst : ∀ i, data'[i]? ≠ data[i]? → start ≤ i ∧ i < start + a.width) :
    a.compute data' ≠ a.compute data := by
  have hparts : ∀ xs : Bytes, xs =
      xs.take start ++ ((xs.drop start).take a.width ++ xs.drop (start + a.width)) := by
    intro xs
    rw [← List.drop_drop, List.take_append_drop, List.take_append_drop]
  obtain ⟨hfront, hback⟩ := take_eq_and_drop_eq hburst
  have hfits : 8 * ((data'.drop start).take a.width).length ≤ 8 * a.width := by
    rw [List.length_take]
    omega
  have hmiddle : (data'.drop start).take a.width ≠ (data.drop start).take a.width := by
    intro heq
    refine hne ?_
    rw [hparts data', hparts data, hfront, hback, heq]
  rw [compute_eq_serial, compute_eq_serial, hparts data', hparts data, hfront, hback]
  refine Register.serial_ne a.reversible_register ?_ ?_ hfits hmiddle _ _
  · exact Nat.mul_pos (by decide) a.width_pos
  · simp [hlength]

theorem compute_eq_of_checksumBytes_eq {data data' : Bytes} {order : Option ByteOrder}
    (h : a.checksumBytes data' order = a.checksumBytes data order) :
    a.compute data' = a.compute data := by
  have hdecode := congrArg (order.getD a.naturalOrder).decode h
  rw [decode_checksumBytes, decode_checksumBytes] at hdecode
  exact BitVec.eq_of_toNat_eq hdecode

theorem compute_set_ne {data : Bytes} {i : Nat} {b : UInt8} (hi : i < data.length)
    (hb : data[i]? ≠ some b) : a.compute (data.set i b) ≠ a.compute data := by
  have hwidth := a.width_pos
  have hchanged : (data.set i b)[i]? = some b := by
    rw [List.getElem?_set_self hi]
  refine compute_ne_of_burst i List.length_set (fun heq => ?_) fun j hj => ?_
  · rw [heq] at hchanged
    exact hb hchanged
  · have hij : i = j := by
      by_contra hij
      exact hj (List.getElem?_set_ne hij)
    omega

/-- Two byte strings of one length that differ, and differ only within as many bytes as a checksum
has, have different checksums. So in a frame, a change of one byte in the part that is covered
always changes the bytes of the checksum. -/
theorem bursts_are_detected (a : Algorithm) :
    (∀ (data data' : Bytes) (start : Nat), data'.length = data.length → data' ≠ data →
      (∀ i, data'[i]? ≠ data[i]? → start ≤ i ∧ i < start + a.width) →
      a.compute data' ≠ a.compute data) ∧
    ∀ (raw : Bytes) (q p i : Nat) (b : UInt8) (order : Option ByteOrder),
      q ≤ i → i < p → i < raw.length → raw[i]? ≠ some b →
      a.checksumBytes (Bytes.slice (raw.set i b) q p) order ≠
        a.checksumBytes (raw.slice q p) order := by
  refine ⟨fun data data' start hlength hne hburst => compute_ne_of_burst start hlength hne hburst,
    fun raw q p i b order hq hp hi hb heq => ?_⟩
  have hset : Bytes.slice (raw.set i b) q p = (raw.slice q p).set (i - q) b := by
    rw [Bytes.slice, Bytes.slice, List.take_set, List.drop_set, if_neg (Nat.not_lt.mpr hq)]
  have hin : i - q < (raw.slice q p).length := by
    rw [Bytes.slice, List.length_drop, List.length_take]
    omega
  have hthere : (raw.slice q p)[i - q]? = raw[i]? := by
    rw [Bytes.slice, List.getElem?_drop, Nat.add_sub_cancel' hq, List.getElem?_take, if_pos hp]
  rw [hset] at heq
  exact compute_set_ne hin (hthere ▸ hb) (compute_eq_of_checksumBytes_eq heq)

/-- Four bytes of six are changed, which the four bytes of a CRC-32 show; and in the part of a frame
that a CRC-16 covers one bit is. -/
theorem bursts_are_detected_short :
    let sent : Bytes := [0x7E, 0x01, 0x03, 0x00, 0x00, 0x0A]
    let received : Bytes := [0x7E, 0x84, 0x98, 0x12, 0x01, 0x0A]
    received.length = sent.length ∧ received ≠ sent ∧
      (∀ i, received[i]? ≠ sent[i]? → 1 ≤ i ∧ i < 1 + crc32.width) ∧
      crc32.compute received ≠ crc32.compute sent ∧
      crc16Ccitt.checksumBytes (Bytes.slice (sent.set 5 0x0B) 1 6) none ≠
        crc16Ccitt.checksumBytes (sent.slice 1 6) none := by
  intro sent received
  have hburst : ∀ i, received[i]? ≠ sent[i]? → 1 ≤ i ∧ i < 1 + crc32.width := by
    intro i hi
    match i with
    | 0 | 5 | n + 6 => exact absurd rfl hi
    | 1 | 2 | 3 | 4 => decide
  exact ⟨rfl, by decide, hburst,
    (bursts_are_detected crc32).1 sent received 1 rfl (by decide) hburst,
    (bursts_are_detected crc16Ccitt).2 sent 1 6 5 0x0B none (by decide) (by decide) (by decide)
      (by decide)⟩

end Checksum.Algorithm

end SerialFrame
