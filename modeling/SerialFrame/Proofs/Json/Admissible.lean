import Mathlib.Tactic
import SerialFrame.Json.Admissible
import SerialFrame.Proofs.Json.Numbers

/-!
# Values that can be held in memory

The digits of an integer of 64 bits fit a significand of 64 bits, so that as a double it is far from
infinite and can be held (`admissible_ofInt`). What is built of values that can be held can be held
itself, up to the deepest level.
-/

namespace SerialFrame.Json

theorem le_foldl_digits (digits : List Char) (n : Nat) :
    n ≤ digits.foldl (fun n c => 10 * n + (c.toNat - 48)) n := by
  induction digits generalizing n with
  | nil => exact le_rfl
  | cons c digits ih => exact le_trans (by omega) (ih (10 * n + (c.toNat - 48)))

namespace Scaled

variable {s s' : Scaled} {c : Char} {digits : List Char} {n : Nat}

theorem push?_of_lt (h : 10 * s.significand + (c.toNat - 48) < UInt64.size) :
    s.push? c = some { s with significand := 10 * s.significand + (c.toNat - 48) } := by
  unfold push?
  extract_lets significand
  exact if_pos h

/-- Digits whose value fits 64 bits go into the significand, and nothing is left to be scaled. -/
theorem whole_of_lt (hn : n < UInt64.size)
    (h : digits.foldl (fun n c => 10 * n + (c.toNat - 48)) s.significand = n) :
    s.whole digits = { s with significand := n } := by
  induction digits generalizing s with
  | nil =>
    obtain rfl : s.significand = n := h
    rfl
  | cons c digits ih =>
    rw [List.foldl_cons] at h
    have hle := le_foldl_digits digits (10 * s.significand + (c.toNat - 48))
    rw [h] at hle
    rw [whole_cons, push?_of_lt (Nat.lt_of_le_of_lt hle hn)]
    exact ih h

end Scaled

theorem roundToDouble_le {n : Nat} (h : n < UInt64.size) : roundToDouble n ≤ 2 * UInt64.size := by
  have hlog : n.log2 ≤ 64 := by
    rcases Nat.eq_zero_or_pos n with rfl | hpos
    · decide
    · exact ((Nat.log2_lt hpos.ne').mpr h : n.log2 < 64).le
  have hunit : 1 <<< (n.log2 - 52) ≤ UInt64.size := by
    rw [Nat.one_shiftLeft]
    exact Nat.pow_le_pow_right (by decide) (by omega : n.log2 - 52 ≤ 64)
  have hquotient : n / 1 <<< (n.log2 - 52) * 1 <<< (n.log2 - 52) ≤ n := Nat.div_mul_le_self n _
  unfold roundToDouble
  dsimp only
  split
  · calc (n / 1 <<< (n.log2 - 52) + 1) * 1 <<< (n.log2 - 52)
      _ = n / 1 <<< (n.log2 - 52) * 1 <<< (n.log2 - 52) + 1 <<< (n.log2 - 52) := Nat.succ_mul _ _
      _ ≤ 2 * UInt64.size := by omega
  · exact hquotient.trans (by omega)

theorem not_overflows {n : Nat} (h : n < UInt64.size) : overflows n 0 = false := by
  have hone : roundToDouble (Nat.pow 10 (0 : Int).toNat) = 1 := by decide
  have hlimit : 2 * UInt64.size < doubleLimit := by decide +kernel
  have hsmall : roundToDouble n * 1 < doubleLimit := by
    have := roundToDouble_le h
    omega
  have hexponent : ¬ (308 : Int) < 0 := by decide
  simp only [overflows, hone, Nat.not_le.mpr hsmall, hexponent, decide_false, Bool.or_false,
    Bool.and_false]

theorem admissible_ofInt {n : Int} (h : n.natAbs < UInt64.size) (level : Nat) :
    (ofInt n).admissible level := by
  have hscaled : (Numeral.ofInt n).scaled = ⟨n.natAbs, 0⟩ :=
    Scaled.whole_of_lt (s := ⟨0, 0⟩) h (digitsValue_toDigits n.natAbs)
  have hlarge : (Numeral.ofInt n).tooLarge = overflows n.natAbs 0 := by
    rw [Numeral.tooLarge, hscaled]
    rfl
  rw [ofInt, admissible, hlarge, not_overflows h]
  rfl

@[simp]
theorem admissible_ofString (text : String) (level : Nat) : (ofString text).admissible level := by
  rw [ofString, admissible, Text.ofString, Text.chars?_map_char]
  rfl

theorem admissible_array {elements : List Json} {level : Nat} (hlevel : level ≤ deepestLevel)
    (h : ∀ element ∈ elements, element.admissible (level + 1)) : (array elements).admissible level := by
  have hall : admissibleElements (level + 1) elements := by
    induction elements with
    | nil => rfl
    | cons element elements ih =>
      rw [admissibleElements, h element List.mem_cons_self,
        ih fun e he => h e (List.mem_cons_of_mem _ he)]
      rfl
  simp [admissible, hlevel, hall]

theorem admissible_ofFields {fields : List (String × Json)} {level : Nat}
    (hlevel : level ≤ deepestLevel) (h : ∀ field ∈ fields, field.2.admissible (level + 1)) :
    (ofFields fields).admissible level := by
  have hall : admissibleMembers (level + 1)
      (fields.map fun field => (Text.ofString field.1, field.2)) := by
    induction fields with
    | nil => rfl
    | cons field fields ih =>
      rw [List.map_cons, admissibleMembers, h field List.mem_cons_self,
        ih fun f hf => h f (List.mem_cons_of_mem _ hf), Text.ofString, Text.chars?_map_char]
      rfl
  simp [ofFields, admissible, hlevel, hall]

end SerialFrame.Json
