import SerialFrame.Counter.Checked
import SerialFrame.Proofs.Counter.Value

/-!
# Exact arithmetic of counters

Adding a step of 64 bits in words of 128 bits never runs over, and stopping as soon as nothing is
carried leaves out nothing (`advance?_eq_some`). `arithmetic_exact` puts together what advancing,
cutting and reading a counter do to the number that it writes.
-/

namespace SerialFrame.Counter

/-- What is carried past a byte is no more than what was carried to it, so it stays in its word. -/
theorem addByte?_eq_some {carry : Nat} (h : carry < 2 ^ 64) (b : UInt8) :
    addByte? b carry = some (UInt8.ofNat (b.toNat + carry), (b.toNat + carry) / 256) := by
  have hb := b.toNat_lt
  have hsum : b.toNat + carry % 256 < 2 ^ 128 := by omega
  have hcarry : carry / 256 + (b.toNat + carry % 256) / 256 < 2 ^ 128 := by omega
  have hrest : carry / 256 + (b.toNat + carry % 256) / 256 = (b.toNat + carry) / 256 := by omega
  have hlow : UInt8.ofNat (b.toNat + carry % 256) = UInt8.ofNat (b.toNat + carry) := by
    apply UInt8.toNat_inj.mp
    rw [UInt8.toNat_ofNat', UInt8.toNat_ofNat']
    omega
  rw [addByte?, ← Int.natCast_add, Word.ofInt?_natCast hsum, Option.bind_eq_bind, Option.bind_some,
    ← Int.natCast_add, Word.ofInt?_natCast hcarry, Option.bind_some, hrest, hlow]
  rfl

theorem addCarry_zero (value : Bytes) : addCarry value 0 = (value, 0) := by
  induction value with
  | nil => rfl
  | cons b value ih =>
    rw [addCarry_cons, ih, Nat.add_zero, UInt8.ofNat_toNat, Nat.div_eq_of_lt b.toNat_lt]

theorem addCarry_concat (value : Bytes) (b : UInt8) (carry : Nat) :
    addCarry (value ++ [b]) carry =
      ((addCarry value ((b.toNat + carry) / 256)).1 ++ [UInt8.ofNat (b.toNat + carry)],
        (addCarry value ((b.toNat + carry) / 256)).2) := by
  induction value with
  | nil => rfl
  | cons first value ih => rw [List.cons_append, addCarry_cons, ih, addCarry_cons, List.cons_append]

theorem addLow?_eq_some {carry : Nat} (h : carry < 2 ^ 64) (bytes : Bytes) :
    addLow? bytes carry = some (addCarry bytes.reverse carry).1.reverse := by
  induction bytes generalizing carry with
  | nil => rfl
  | cons b rest ih =>
    rw [addLow?]
    by_cases hzero : carry = 0
    · rw [if_pos hzero, hzero, addCarry_zero, List.reverse_reverse]
    · have hb := b.toNat_lt
      have hcarry : (b.toNat + carry) / 256 < 2 ^ 64 := by omega
      rw [if_neg hzero, addByte?_eq_some h, Option.bind_eq_bind, Option.bind_some]
      dsimp only
      rw [ih hcarry, Option.bind_eq_bind, Option.bind_some, List.reverse_cons, addCarry_concat,
        List.reverse_append]
      rfl

theorem advance?_eq_some (value : Bytes) (step : UInt64) :
    advance? value step = some (advance value step) := by
  rw [advance?, addLow?_eq_some step.toNat_lt, List.reverse_reverse, Option.map_some,
    List.reverse_reverse, advance]

/-- Counters are advanced, cut and read exactly, whatever their width: the number that comes out is
the right one modulo `256 ^ width`, and no word runs over on the way. -/
theorem arithmetic_exact :
    (∀ (value : Bytes) (step : UInt64),
      (advance value step).length = value.length ∧
        (advance value step).value = (value.value + step.toNat) % 256 ^ value.length ∧
        advance? value step = some (advance value step)) ∧
    (∀ (value : Bytes) (width : Nat),
      (fitWidth value width).length = width ∧
        (fitWidth value width).value = value.value % 256 ^ width) ∧
    ∀ (text : String) (width : Nat), 2 * width < UInt64.size →
      (ofText text width).length = width ∧
        (ofText text width).value = Hex.number text % 256 ^ width :=
  ⟨fun value step =>
      ⟨length_advance value step, value_advance value step, advance?_eq_some value step⟩,
    fun value width => ⟨length_fitWidth value width, value_fitWidth value width⟩,
    fun _ _ hbits => ⟨length_ofText hbits, value_ofText hbits⟩⟩

/-- The largest step runs over three bytes, and of nine digits among other characters the lowest
four are read. -/
theorem arithmetic_exact_wraps :
    (advance [0xFF, 0xFF, 0x02] 0xFFFFFFFFFFFFFFFF).value = 0xFFFF01 ∧
      advance? [0xFF, 0xFF, 0x02] 0xFFFFFFFFFFFFFFFF = some [0xFF, 0xFF, 0x01] ∧
      (ofText "0x1 2é3-45678" 2).length = 2 ∧ (ofText "0x1 2é3-45678" 2).value = 0x5678 := by
  obtain ⟨hadvance, -, hread⟩ := arithmetic_exact
  obtain ⟨-, hvalue, hwords⟩ := hadvance [0xFF, 0xFF, 0x02] 0xFFFFFFFFFFFFFFFF
  obtain ⟨hlength, htext⟩ := hread "0x1 2é3-45678" 2 (by decide)
  refine ⟨hvalue.trans ?_, hwords.trans ?_, hlength, htext.trans ?_⟩
  · decide
  · decide
  · decide +kernel

end SerialFrame.Counter
