import Mathlib.Tactic
import SerialFrame.Json.Printer

/-!
# Integers read back

The digits of an integer are read as they were written, if nothing that could go on with the number
stands behind them (`readNumber_written`), and they have its value (`int?_ofInt`).
-/

namespace SerialFrame.Json

def continuesNumber (c : Char) : Bool :=
  c.isDigit || c == '.' || c == 'e' || c == 'E'

/-- No number goes on with the characters. -/
def Ends (cs : List Char) : Prop :=
  ∀ c ∈ cs.head?, continuesNumber c = false

theorem Ends.nil : Ends [] := fun _ h => by cases h

theorem Ends.cons {c : Char} (h : continuesNumber c = false) (cs : List Char) : Ends (c :: cs) := by
  intro c' hc
  obtain rfl := Option.some.inj hc
  exact h

theorem isDigit_of_mem_toDigits {n : Nat} {c : Char} (h : c ∈ Nat.toDigits 10 n) : c.isDigit :=
  Nat.isDigit_of_mem_toDigits (by decide) (by decide) h

/-- Only zero is written with a leading zero. -/
theorem head?_toDigits {n : Nat} (h : (Nat.toDigits 10 n).head? = some '0') : n = 0 := by
  induction n using Nat.strong_induction_on with
  | h n ih =>
    rcases Nat.lt_or_ge n 10 with hn | hn
    · have hdigit : ∀ n < 10, [Nat.digitChar n].head? = some '0' → n = 0 := by decide
      rw [Nat.toDigits_of_lt_base hn] at h
      exact hdigit n hn h
    · rw [Nat.toDigits_of_base_le (by decide) hn, List.head?_append_of_ne_nil _ Nat.toDigits_ne_nil] at h
      have := ih (n / 10) (by omega) h
      omega

theorem takeWhile_isDigit {digits rest : List Char} (h : ∀ c ∈ digits, c.isDigit) (hrest : Ends rest) :
    (digits ++ rest).takeWhile Char.isDigit = digits ∧
      (digits ++ rest).dropWhile Char.isDigit = rest := by
  have hhead : rest.takeWhile Char.isDigit = [] ∧ rest.dropWhile Char.isDigit = rest := by
    cases rest with
    | nil => exact ⟨rfl, rfl⟩
    | cons c rest =>
      have hc := hrest c rfl
      simp only [continuesNumber, Bool.or_eq_false_iff] at hc
      simp [hc.1.1.1]
  rw [List.takeWhile_append_of_pos h, List.dropWhile_append_of_pos h, hhead.1, hhead.2,
    List.append_nil]
  exact ⟨rfl, rfl⟩

theorem readWhole_toDigits (n : Nat) {rest : List Char} (hrest : Ends rest) :
    readWhole (Nat.toDigits 10 n ++ rest) = some (Nat.toDigits 10 n, rest) := by
  obtain ⟨htake, hdrop⟩ := takeWhile_isDigit (fun c hc => isDigit_of_mem_toDigits (n := n) hc) hrest
  have hread : readDigits (Nat.toDigits 10 n ++ rest) = some (Nat.toDigits 10 n, rest) := by
    rw [readDigits, htake, hdrop]
    cases h : Nat.toDigits 10 n with
    | nil => exact absurd h Nat.toDigits_ne_nil
    | cons c digits => rfl
  have hzero : ¬ ((Nat.toDigits 10 n).head? = some '0' ∧ Nat.toDigits 10 n ≠ ['0']) := by
    rintro ⟨hhead, hne⟩
    obtain rfl := head?_toDigits hhead
    exact hne rfl
  rw [readWhole, hread]
  exact if_neg hzero

theorem readUnsigned_toDigits (negative : Bool) (n : Nat) {rest : List Char} (hrest : Ends rest) :
    readUnsigned negative (Nat.toDigits 10 n ++ rest) =
      some (⟨negative, Nat.toDigits 10 n, none, none⟩, rest) := by
  have hfraction : readFraction rest = some (none, rest) := by
    cases rest with
    | nil => rfl
    | cons c rest =>
      have hc := hrest c rfl
      unfold readFraction
      split
      · next heq =>
        rw [(List.cons.inj heq).1] at hc
        cases hc
      · rfl
  have hexponent : readExponent rest = some (none, rest) := by
    cases rest with
    | nil => rfl
    | cons c rest =>
      have hc := hrest c rfl
      refine if_neg fun h => ?_
      rcases h with rfl | rfl <;> cases hc
  rw [readUnsigned, readWhole_toDigits n hrest]
  change (readFraction rest >>= _) = _
  rw [hfraction]
  change (readExponent rest >>= _) = _
  rw [hexponent]
  rfl

theorem exists_written_ofInt (n : Int) :
    ∃ c cs, (Numeral.ofInt n).written = c :: cs ∧ (c = '-' ∨ c.isDigit) := by
  by_cases hneg : n < 0
  · exact ⟨'-', _, by simp only [Numeral.written, Numeral.ofInt, hneg, decide_true, if_true]; rfl,
      .inl rfl⟩
  · obtain ⟨c, cs, hdigits⟩ := List.exists_cons_of_ne_nil (Nat.toDigits_ne_nil (b := 10) (n := n.natAbs))
    refine ⟨c, cs, ?_, .inr (isDigit_of_mem_toDigits (n := n.natAbs) ?_)⟩
    · simp only [Numeral.written, Numeral.ofInt, hneg, decide_false, Bool.false_eq_true, if_false,
        List.append_nil, List.nil_append, hdigits]
    · rw [hdigits]
      exact List.mem_cons_self

theorem readNumber_written (n : Int) {rest : List Char} (hrest : Ends rest) :
    readNumber ((Numeral.ofInt n).written ++ rest) = some (.ofInt n, rest) := by
  have hdigits := readUnsigned_toDigits (decide (n < 0)) n.natAbs hrest
  by_cases hneg : n < 0
  · simp only [Numeral.written, Numeral.ofInt, hneg, decide_true, if_true, List.append_nil,
      List.cons_append, List.nil_append, readNumber] at hdigits ⊢
    exact hdigits
  · simp only [Numeral.written, Numeral.ofInt, hneg, decide_false, Bool.false_eq_true, if_false,
      List.append_nil, List.nil_append] at hdigits ⊢
    rw [← hdigits]
    unfold readNumber
    split
    · next heq =>
      have hminus : '-' ∈ (Nat.toDigits 10 n.natAbs ++ rest).head? := by rw [heq]; rfl
      rw [List.head?_append_of_ne_nil _ Nat.toDigits_ne_nil] at hminus
      have := isDigit_of_mem_toDigits (List.mem_of_mem_head? hminus)
      cases this
    · rfl

/-! ### Values -/

theorem digitsValue_toDigits (n : Nat) : digitsValue (Nat.toDigits 10 n) = n := by
  have hfold : digitsValue (Nat.toDigits 10 n) = Nat.ofDigitChars 10 (Nat.toDigits 10 n) 0 := rfl
  rw [hfold, Nat.ofDigitChars_ten_toDigits]

@[simp]
theorem int?_ofInt (n : Int) : (ofInt n).int? = some n := by
  simp only [ofInt, int?, Numeral.ofInt, Numeral.int?, digitsValue_toDigits, decide_eq_true_eq]
  by_cases hneg : n < 0
  · have hne : n.natAbs ≠ 0 := by omega
    rw [if_pos hneg, if_neg hne]
    congr
    omega
  · rw [if_neg hneg]
    congr
    omega

@[simp]
theorem uint64?_ofNat (n : UInt64) : (ofNat n.toNat).uint64? = some n := by
  have hrange : 0 ≤ (n.toNat : Int) ∧ (n.toNat : Int) < UInt64.size :=
    ⟨Int.natCast_nonneg _, Int.ofNat_lt.mpr n.toNat_lt_size⟩
  rw [uint64?, ofNat, int?_ofInt, Option.bind_eq_bind, Option.bind_some, if_pos hrange,
    Int.toNat_natCast, UInt64.ofNat_toNat]

@[simp]
theorem int64?_ofInt (n : Int64) : (ofInt n.toInt).int64? = some n := by
  rw [int64?, int?_ofInt, Option.bind_eq_bind, Option.bind_some,
    if_pos ⟨n.minValue_le_toInt, n.toInt_le⟩, Int64.ofInt_toInt]

end SerialFrame.Json
