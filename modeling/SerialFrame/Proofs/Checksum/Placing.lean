import Mathlib.Tactic
import SerialFrame.Checksum.Checked
import SerialFrame.Proofs.Checksum.Splice

/-!
# Where exactly a checksum goes

The offset of a checksum is the one that the integers give, moved to 0 if it is negative
(`splitIndex_fst`), and no word runs over when it is worked out (`splitIndex?_eq_some`). With that
everything about a splice is known, and it is carried out inside of the buffer:
`Splice.placed_exactly`.
-/

namespace SerialFrame.Checksum

theorem splitIndex_fst (length : Nat) (endIndex : Int) :
    ((splitIndex length endIndex).1 : Int) =
      if 0 ≤ endIndex then (length : Int) else max 0 (length + endIndex) := by
  unfold splitIndex
  by_cases hend : 0 ≤ endIndex
  · rw [if_pos hend, if_pos hend]
  · rw [if_neg hend, if_neg hend]
    split <;> omega

theorem splitIndex_snd (length : Nat) (endIndex : Int) :
    (splitIndex length endIndex).2 = true ↔ endIndex < 0 ∧ length + endIndex < 0 := by
  unfold splitIndex
  by_cases hend : 0 ≤ endIndex
  · simp [hend]
  · rw [if_neg hend]
    split <;> simp <;> omega

/-- The distance of an index from the end is a word, also that of the lowest one. -/
theorem splitIndex?_eq_some {length : Nat} (h : length < UInt64.size) (endIndex : Int64) :
    splitIndex? length endIndex = some (splitIndex length endIndex.toInt) := by
  have hlow : -2 ^ 63 ≤ endIndex.toInt := endIndex.le_toInt
  unfold splitIndex? splitIndex
  by_cases hend : 0 ≤ endIndex.toInt
  · rw [if_pos hend, if_pos hend]
  have hback : -endIndex.toInt = endIndex.toInt.natAbs := by omega
  have hfits : endIndex.toInt.natAbs < 2 ^ 64 := by omega
  rw [if_neg hend, if_neg hend, hback, Word.ofInt?_natCast hfits, Option.bind_eq_bind,
    Option.bind_some]
  by_cases hle : endIndex.toInt.natAbs ≤ length
  · have hword : length - endIndex.toInt.natAbs < 2 ^ 64 :=
      Nat.lt_of_le_of_lt (Nat.sub_le _ _) h
    rw [if_pos hle, ← Int.natCast_sub hle, Word.ofInt?_natCast hword]
    rfl
  · have hneg : (length : Int) - endIndex.toInt.natAbs < 0 := by omega
    rw [if_neg hle, Word.ofInt?_of_neg hneg]
    rfl

namespace Splice

variable {config : ChecksumConfig} {buffer : Bytes} {algorithm : Algorithm} {s : Splice}
  {offset : Nat} {moved : Bool}

theorem of?_eq_some_of_split (hname : Algorithm.ofName? config.algorithm = some algorithm)
    (hsplit : splitIndex buffer.length config.endIndex.toInt = (offset, moved)) :
    of? config buffer =
      some { algorithm, start := min config.startIndex.toNat offset, offset
             value := algorithm.checksumBytes
               (buffer.slice (min config.startIndex.toNat offset) offset) config.byteOrder
             clamped := moved || decide (offset < config.startIndex.toNat) } := by
  rw [of?, hname, Option.map_some, hsplit]
  rfl

theorem checked?_eq_of? (hname : Algorithm.ofName? config.algorithm = some algorithm)
    (hlength : buffer.length < UInt64.size) :
    checked? algorithm config buffer = of? config buffer := by
  have hle := splitIndex_le buffer.length config.endIndex.toInt
  rcases hsplit : splitIndex buffer.length config.endIndex.toInt with ⟨offset, moved⟩
  rw [hsplit] at hle
  have hcovered : buffer.slice? (min config.startIndex.toNat offset) offset =
      some (buffer.slice (min config.startIndex.toNat offset) offset) :=
    if_pos ⟨Nat.min_le_right _ _, hle⟩
  rw [of?_eq_some_of_split hname hsplit, checked?, splitIndex?_eq_some hlength, hsplit,
    Option.bind_eq_bind, Option.bind_some]
  dsimp only
  rw [hcovered]
  rfl

theorem apply?_eq_some (h : s.offset ≤ buffer.length) : s.apply? buffer = some (s.apply buffer) :=
  if_pos h

theorem apply_eq_slices (s : Splice) (buffer : Bytes) :
    s.apply buffer =
      buffer.slice 0 s.offset ++ s.value ++ buffer.slice s.offset buffer.length := by
  rw [apply, Bytes.slice, Bytes.slice, List.drop_zero, List.take_length]

theorem length_apply (h : s.offset ≤ buffer.length) :
    (s.apply buffer).length = buffer.length + s.value.length := by
  simp only [apply, List.length_append, List.length_take, List.length_drop]
  omega

/-- A checksum by a known algorithm is placed whatever its indices are. It covers what lies between
the offsets that the integers give, each moved to the nearest end of the buffer, and goes right
behind that; all else stays as it is. No word runs over and nothing outside of the buffer is touched
on the way. -/
theorem placed_exactly (hname : Algorithm.ofName? config.algorithm = some algorithm)
    (buffer : Bytes) :
    let n : Int := buffer.length
    let endIndex := config.endIndex.toInt
    let stop : Int := if 0 ≤ endIndex then n else max 0 (n + endIndex)
    ∃ s, of? config buffer = some s ∧ s.algorithm = algorithm ∧ (s.offset : Int) = stop ∧
      (s.start : Int) = min (config.startIndex.toNat : Int) stop ∧
      s.value = algorithm.checksumBytes (buffer.slice s.start s.offset) config.byteOrder ∧
      (s.clamped = true ↔
        stop < config.startIndex.toNat ∨ (endIndex < 0 ∧ n + endIndex < 0)) ∧
      s.apply buffer =
        buffer.slice 0 s.offset ++ s.value ++ buffer.slice s.offset buffer.length ∧
      (s.apply buffer).length = buffer.length + algorithm.width ∧
      (buffer.length < UInt64.size →
        checked? algorithm config buffer = some s ∧ s.apply? buffer = some (s.apply buffer)) := by
  intro n endIndex stop
  have hstop := splitIndex_fst buffer.length endIndex
  have hmoved := splitIndex_snd buffer.length endIndex
  have hle := splitIndex_le buffer.length endIndex
  rcases hsplit : splitIndex buffer.length endIndex with ⟨offset, moved⟩
  rw [hsplit] at hstop hmoved hle
  have hsplice := of?_eq_some_of_split hname hsplit
  change (offset : Int) = stop at hstop
  rw [← hstop]
  refine ⟨_, hsplice, rfl, rfl, Nat.cast_min .., rfl, ?_, apply_eq_slices _ _, ?_, ?_⟩
  · dsimp only at hmoved ⊢
    rw [Bool.or_eq_true, decide_eq_true_eq, hmoved, or_comm, Int.ofNat_lt]
  · rw [length_apply hle, length_value hsplice]
  · exact fun hlength => ⟨(checked?_eq_of? hname hlength).trans hsplice, apply?_eq_some hle⟩

/-- With the lowest end index and the highest start index there is no byte left to be covered. -/
theorem placed_exactly_lowest :
    let config : ChecksumConfig :=
      { algorithm := "Modbus CRC", startIndex := 0xFFFFFFFFFFFFFFFF, endIndex := Int64.minValue }
    ∃ s, checked? .crc16Modbus config [0x01, 0x02, 0x03] = some s ∧ s.start = 0 ∧ s.offset = 0 ∧
      s.clamped = true ∧ s.apply? [0x01, 0x02, 0x03] = some [0xFF, 0xFF, 0x01, 0x02, 0x03] := by
  intro config
  have hname : Algorithm.ofName? config.algorithm = some .crc16Modbus := by decide +kernel
  obtain ⟨s, -, -, hoffset, hstart, hvalue, hclamped, happly, -, hwords⟩ :=
    placed_exactly hname [0x01, 0x02, 0x03]
  obtain ⟨hchecked, hinsert⟩ := hwords (by decide)
  have hoffset : s.offset = 0 := Int.ofNat_inj.mp (hoffset.trans (by decide))
  have hstart : s.start = 0 := Int.ofNat_inj.mp (hstart.trans (by decide))
  have hvalue : s.value = [0xFF, 0xFF] := by
    rw [hvalue, hstart, hoffset]
    decide +kernel
  rw [hoffset, hvalue] at happly
  exact ⟨s, hchecked, hstart, hoffset, hclamped.mpr (.inr (by decide)),
    hinsert.trans (congrArg some happly)⟩

end Splice

end SerialFrame.Checksum
