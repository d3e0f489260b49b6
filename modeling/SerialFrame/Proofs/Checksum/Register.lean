import SerialFrame.Checksum.Serial

/-!
# The algebra of a shift register

Both directions of shifting are one through the view `bit`. A register is linear in what it holds
and in what arrives (`foldl_clock_xor`), and one that takes in its own bits only shifts them out
(`foldl_clock_self`). So a byte acts through the byte that is being shifted out, and a table can do
that in one step (`absorbTable_eq`). Whether bit by bit, byte by byte or with a table, the same
comes out: `run_eq_serial`, `runTable_eq_serial`.
-/

namespace SerialFrame.Checksum.Register

variable {v w : Nat} {r : Register w}

/-! ### Bits of words -/

theorem eq_of_bit {x y : BitVec v} (h : ∀ i < v, r.bit x i = r.bit y i) : x = y := by
  unfold bit at h
  cases hlow : r.lowFirst <;> simp only [hlow, if_true, Bool.false_eq_true, if_false] at h
  · exact BitVec.eq_of_getMsbD_eq h
  · exact BitVec.eq_of_getLsbD_eq h

theorem bit_of_le (x : BitVec v) {i : Nat} (h : v ≤ i) : r.bit x i = false := by
  unfold bit
  split
  · exact BitVec.getLsbD_of_ge x i h
  · exact BitVec.getMsbD_of_ge x i h

@[simp]
theorem bit_zero (i : Nat) : r.bit (0#v) i = false := by
  simp [bit]

@[simp]
theorem bit_xor (x y : BitVec v) (i : Nat) : r.bit (x ^^^ y) i = (r.bit x i ^^ r.bit y i) := by
  unfold bit
  split
  · exact BitVec.getLsbD_xor
  · exact BitVec.getMsbD_xor

@[simp]
theorem bit_move (n : Nat) (x : BitVec w) (i : Nat) : r.bit (r.move n x) i = r.bit x (i + n) := by
  unfold bit move
  split
  · rw [BitVec.getLsbD_ushiftRight, Nat.add_comm]
  · rw [BitVec.getMsbD_shiftLeft]

theorem bit_place (hw : 8 ≤ w) (b : BitVec 8) (i : Nat) : r.bit (r.place b) i = r.bit b i := by
  unfold bit place
  split
  · rw [BitVec.getLsbD_setWidth]
    by_cases hi : i < w
    · simp [hi]
    · simp [hi, BitVec.getLsbD_of_ge b i (by omega)]
  · have hindex : i + (w - 8) + 8 - w = i := by omega
    have hfits : w - 8 ≤ i + (w - 8) := by omega
    rw [BitVec.getMsbD_shiftLeft, BitVec.getMsbD_setWidth, hindex, decide_eq_true hfits,
      Bool.true_and]

theorem bit_index (hw : 8 ≤ w) (x : BitVec w) (b : UInt8) {i : Nat} (hi : i < 8) :
    r.bit (r.index x b) i = (r.bit x i ^^ r.bit b.toBitVec i) := by
  unfold bit index
  split
  · rw [BitVec.getLsbD_xor, BitVec.getLsbD_setWidth, decide_eq_true hi, Bool.true_and]
  · have hindex : i + w - 8 - (w - 8) = i := by omega
    rw [BitVec.getMsbD_xor, BitVec.getMsbD_setWidth, BitVec.getMsbD_ushiftRight, hindex]
    have hleft : decide (8 - w ≤ i) = true := decide_eq_true (by omega)
    have hin : decide (i + w - 8 < w) = true := decide_eq_true (by omega)
    have hout : decide (i + w - 8 < w - 8) = false := decide_eq_false (by omega)
    rw [hleft, hin, hout, Bool.not_false, Bool.true_and, Bool.true_and, Bool.true_and]

theorem length_bits (x : BitVec v) : (r.bits x).length = v := by
  simp [bits]

theorem bits_xor (x y : BitVec v) :
    r.bits (x ^^^ y) = (r.bits x).zipWith (· ^^ ·) (r.bits y) := by
  simp [bits, List.zipWith_map, List.zipWith_self]

theorem bits_injective {x y : BitVec v} (h : r.bits x = r.bits y) : x = y :=
  eq_of_bit fun i hi => List.map_inj_left.mp h i (List.mem_range.mpr hi)

theorem bits_zero : r.bits (0#v) = List.replicate v false :=
  List.eq_replicate_iff.mpr ⟨length_bits _, by simp [bits]⟩

/-! ### Shifting -/

theorem move_zero (x : BitVec w) : r.move 0 x = x := by
  unfold move
  split <;> simp

theorem move_move (m n : Nat) (x : BitVec w) : r.move m (r.move n x) = r.move (m + n) x :=
  eq_of_bit fun i _ => by rw [bit_move, bit_move, bit_move, Nat.add_assoc]

theorem move_eq_zero {n : Nat} {x : BitVec w} (h : ∀ i, n ≤ i → r.bit x i = false) :
    r.move n x = 0#w :=
  eq_of_bit fun i _ => by rw [bit_move, h _ (Nat.le_add_left n i), bit_zero]

theorem clock_of_bit_eq {x : BitVec w} {b : Bool} (h : r.bit x 0 = b) :
    r.clock x b = r.move 1 x := by
  simp [clock, h]

@[simp]
theorem bit_clock (x : BitVec w) (b : Bool) (i : Nat) :
    r.bit (r.clock x b) i = (r.bit x (i + 1) ^^ ((r.bit x 0 ^^ b) && r.bit r.polynomial i)) := by
  unfold clock
  cases r.bit x 0 ^^ b <;> simp

theorem clock_xor (x y : BitVec w) (b c : Bool) :
    r.clock (x ^^^ y) (b ^^ c) = r.clock x b ^^^ r.clock y c := by
  refine eq_of_bit (r := r) fun i _ => ?_
  have hsum : (r.bit (x ^^^ y) 0 ^^ (b ^^ c)) = ((r.bit x 0 ^^ b) ^^ (r.bit y 0 ^^ c)) := by
    rw [bit_xor, Bool.xor_assoc, Bool.xor_left_comm (r.bit y 0), Bool.xor_assoc]
  rw [bit_clock, hsum, bit_xor, bit_xor, bit_clock, bit_clock, Bool.and_xor_distrib_right]
  simp only [Bool.xor_assoc, Bool.xor_left_comm]

/-- A register is linear in what it holds and in what arrives. -/
theorem foldl_clock_xor {bs cs : List Bool} (h : bs.length = cs.length) (x y : BitVec w) :
    (bs.zipWith (· ^^ ·) cs).foldl r.clock (x ^^^ y) =
      bs.foldl r.clock x ^^^ cs.foldl r.clock y := by
  induction bs generalizing cs x y with
  | nil =>
    rw [List.eq_nil_of_length_eq_zero h.symm]
    rfl
  | cons b bs ih =>
    match cs, h with
    | c :: cs, h =>
      rw [List.zipWith_cons_cons, List.foldl_cons, clock_xor, ih (Nat.succ.inj h)]
      rfl

theorem foldl_clock_self (n : Nat) (x : BitVec w) :
    ((List.range n).map (r.bit x)).foldl r.clock x = r.move n x := by
  induction n generalizing x with
  | zero => exact (move_zero x).symm
  | succ n ih =>
    have hrest :
        (List.range n).map (r.bit x ∘ Nat.succ) = (List.range n).map (r.bit (r.move 1 x)) :=
      List.map_congr_left fun i _ => (bit_move 1 x i).symm
    rw [List.range_succ_eq_map, List.map_cons, List.map_map, hrest, List.foldl_cons,
      clock_of_bit_eq rfl, ih, move_move]

/-! ### Bytes and tables -/

theorem shiftBit_eq (x : BitVec w) : r.shiftBit x = r.clock x false := by
  unfold shiftBit clock bit move
  rw [BitVec.msb_eq_getMsbD_zero]
  cases r.lowFirst <;> simp

theorem shift_eq (n : Nat) (x : BitVec w) :
    r.shift n x = (List.replicate n false).foldl r.clock x := by
  induction n generalizing x with
  | zero => rfl
  | succ n ih => rw [shift, ih, shiftBit_eq, List.replicate_succ, List.foldl_cons]

/-- A byte may arrive bit by bit, or be added to the register at once before that is shifted. -/
theorem shift_xor_place (hw : 8 ≤ w) (x : BitVec w) (b : BitVec 8) :
    r.shift 8 (x ^^^ r.place b) = (r.bits b).foldl r.clock x := by
  have hbits : r.bits b = (List.range 8).map (r.bit (r.place b : BitVec w)) :=
    List.map_congr_left fun i _ => (bit_place hw b i).symm
  have hplaced : (r.bits b).foldl r.clock (r.place b : BitVec w) = 0#w := by
    rw [hbits, foldl_clock_self]
    exact move_eq_zero fun i hi => by rw [bit_place hw, bit_of_le b hi]
  have hcancel : List.replicate 8 false = (r.bits b).zipWith (· ^^ ·) (r.bits b) := by
    rw [← bits_xor, BitVec.xor_self, bits_zero]
  rw [shift_eq, hcancel, foldl_clock_xor rfl, hplaced, BitVec.xor_zero]

theorem absorb_eq (hw : 8 ≤ w) (x : BitVec w) (b : UInt8) :
    r.absorb x b = (r.bits b.toBitVec).foldl r.clock x :=
  shift_xor_place hw x b.toBitVec

theorem get_table (i : BitVec 8) :
    r.table.get ⟨i.toNat, i.isLt⟩ = r.shift 8 (r.place i) := by
  show r.table[i.toNat] = _
  rw [table, Vector.getElem_ofFn]
  rfl

/-- Of the bits of a register, eight arriving bits meet the first eight, and these together are the
byte that is looked up; the others are only shifted. -/
theorem absorbTable_eq (hw : 8 ≤ w) (x : BitVec w) (b : UInt8) :
    r.absorbTable r.table x b = (r.bits b.toBitVec).foldl r.clock x := by
  have hbits : r.bits b.toBitVec =
      ((List.range 8).map (r.bit x)).zipWith (· ^^ ·) (r.bits (r.index x b)) := by
    rw [bits, bits, List.zipWith_map, List.zipWith_self]
    refine List.map_congr_left fun i hi => ?_
    rw [bit_index hw x b (List.mem_range.mp hi), ← Bool.xor_assoc, Bool.xor_self, Bool.false_xor]
  have hlength : ((List.range 8).map (r.bit x)).length = (r.bits (r.index x b)).length := by
    simp [bits]
  have hlookup : r.table.get ⟨(r.index x b).toNat, (r.index x b).isLt⟩ =
      (r.bits (r.index x b)).foldl r.clock 0#w := by
    rw [get_table, ← shift_xor_place hw, BitVec.zero_xor]
  calc r.absorbTable r.table x b
      = r.move 8 x ^^^ (r.bits (r.index x b)).foldl r.clock 0#w := by rw [← hlookup]; rfl
    _ = (r.bits b.toBitVec).foldl r.clock x := by
      rw [hbits, ← foldl_clock_self 8 x, ← foldl_clock_xor hlength, BitVec.xor_zero]

theorem feed_cons (x : BitVec w) (b : UInt8) (data : Bytes) :
    r.feed x (b :: data) = r.feed ((r.bits b.toBitVec).foldl r.clock x) data := by
  rw [feed, stream, List.flatMap_cons, List.foldl_append]
  rfl

theorem feed_append (x : BitVec w) (first second : Bytes) :
    r.feed x (first ++ second) = r.feed (r.feed x first) second := by
  rw [feed, stream, List.flatMap_append, List.foldl_append]
  rfl

theorem foldl_eq_feed {f : BitVec w → UInt8 → BitVec w}
    (h : ∀ x b, f x b = (r.bits b.toBitVec).foldl r.clock x) (x : BitVec w) (data : Bytes) :
    data.foldl f x = r.feed x data := by
  induction data generalizing x with
  | nil => rfl
  | cons b data ih => rw [List.foldl_cons, ih, h, feed_cons]

theorem run_eq_serial (hw : 8 ≤ w) (data : Bytes) : r.run data = r.serial data := by
  rw [run, foldl_eq_feed (absorb_eq hw), serial]

theorem runTable_eq_serial (hw : 8 ≤ w) (data : Bytes) :
    r.runTable r.table data = r.serial data := by
  rw [runTable, foldl_eq_feed (absorbTable_eq hw), serial]

theorem slot_eq (hw : 8 ≤ w) (x : BitVec w) (b : UInt8) : r.slot x b = (r.index x b).toNat := by
  have hpow : 2 ^ 8 ≤ 2 ^ w := Nat.pow_le_pow_right (by decide) hw
  unfold slot index
  split
  · have hmask : (0xFF#w).toNat = 2 ^ 8 - 1 := Nat.mod_eq_of_lt (by omega)
    rw [BitVec.toNat_and, hmask, Nat.and_two_pow_sub_one_eq_mod, ← BitVec.toNat_setWidth,
      BitVec.setWidth_xor, BitVec.setWidth_setWidth_of_le _ hw, BitVec.setWidth_eq]
  · have htop : (x >>> (w - 8)).toNat < 2 ^ 8 := by
      have hx := x.isLt
      rw [BitVec.toNat_ushiftRight, Nat.shiftRight_eq_div_pow]
      refine Nat.div_lt_of_lt_mul ?_
      rwa [← Nat.pow_add, Nat.sub_add_cancel hw]
    have hb := b.toBitVec.isLt
    rw [BitVec.toNat_xor, BitVec.toNat_xor, BitVec.toNat_setWidth, BitVec.toNat_setWidth,
      Nat.mod_eq_of_lt htop, Nat.mod_eq_of_lt (Nat.lt_of_lt_of_le hb hpow)]

end SerialFrame.Checksum.Register
