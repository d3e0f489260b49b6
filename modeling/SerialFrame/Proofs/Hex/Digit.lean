import Mathlib.Tactic
import SerialFrame.Hex.Digit

/-!
# Digits and their places

The digits of hex text are the characters of `alphabet`. None of them is a blank, and each stands
for its `place` in the row of digits, whichever case it is in.
-/

namespace SerialFrame.Hex

def alphabet : List Char :=
  "0123456789ABCDEFabcdef".toList

def place (c : Char) : Nat :=
  "0123456789ABCDEF".toList.idxOf c.toUpper

variable {c : Char}

theorem range_of_isDigit (h : isDigit c = true) :
    (48 ≤ c.toNat ∧ c.toNat ≤ 57) ∨ (65 ≤ c.toNat ∧ c.toNat ≤ 70) ∨
      (97 ≤ c.toNat ∧ c.toNat ≤ 102) := by
  unfold isDigit nibble? at h
  split at h
  · next hc => exact .inl hc
  split at h
  · next hc => exact .inr (.inl hc)
  split at h
  · next hc => exact .inr (.inr hc)
  · cases h

theorem not_isBlank_of_isDigit (h : isDigit c = true) : Text.isBlank c = false := by
  have hrange := range_of_isDigit h
  rw [Bool.eq_false_iff]
  simp only [Text.isBlank, ne_eq, Bool.or_eq_true, Bool.and_eq_true, decide_eq_true_eq, beq_iff_eq]
  omega

/-- What holds of the ASCII characters holds of all digits. -/
theorem of_isDigit {p : Char → Prop} (h : isDigit c = true)
    (hascii : ∀ i : Fin 128, isDigit (Char.ofNat i) = true → p (Char.ofNat i)) : p c := by
  have hrange := range_of_isDigit h
  have hlt : c.toNat < 128 := by omega
  have hp := hascii ⟨c.toNat, hlt⟩
  simp only [Char.ofNat_toNat] at hp
  exact hp h

theorem isDigit_iff : isDigit c = true ↔ c ∈ alphabet := by
  constructor
  · exact fun h => of_isDigit h (by decide)
  · have hall : alphabet.all isDigit = true := by decide
    exact List.all_eq_true.mp hall c

theorem isStray_iff : isStray c = true ↔ c ∉ alphabet ∧ ¬ Text.isBlank c = true := by
  rw [isStray, Bool.and_eq_true, Bool.not_eq_true', Bool.not_eq_true', ← isDigit_iff]
  simp

theorem isDigit_of_nibble? {n : Nibble} (h : nibble? c = some n) : isDigit c = true := by
  rw [isDigit, h]
  rfl

theorem val_eq_place {n : Nibble} (h : nibble? c = some n) : n.val = place c := by
  have hall : (nibble? c).map Fin.val = some (place c) :=
    of_isDigit (p := fun c => (nibble? c).map Fin.val = some (place c)) (isDigit_of_nibble? h)
      (by decide)
  rw [h] at hall
  exact Option.some.inj hall

theorem digit_eq_toUpper {n : Nibble} (h : nibble? c = some n) : digit n = c.toUpper := by
  have hall : (nibble? c).map digit = some c.toUpper :=
    of_isDigit (p := fun c => (nibble? c).map digit = some c.toUpper) (isDigit_of_nibble? h)
      (by decide)
  rw [h] at hall
  exact Option.some.inj hall

/-- What is taken from the digits of a text may be taken from what they stand for. -/
theorem map_nibbles {α : Type} {f : Nibble → α} {g : Char → α}
    (h : ∀ c n, nibble? c = some n → f n = g c) (text : List Char) :
    (text.filterMap nibble?).map f = (digits text).map g := by
  induction text with
  | nil => rfl
  | cons c text ih =>
    cases hc : nibble? c with
    | some n =>
      rw [List.filterMap_cons_some hc, digits, List.filter_cons_of_pos (isDigit_of_nibble? hc),
        List.map_cons, List.map_cons, h c n hc, ih, digits]
    | none =>
      have hdigit : ¬ isDigit c = true := by simp [isDigit, hc]
      rw [List.filterMap_cons_none hc, digits, List.filter_cons_of_neg hdigit, ih, digits]

end SerialFrame.Hex
