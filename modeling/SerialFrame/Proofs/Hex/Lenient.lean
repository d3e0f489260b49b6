import SerialFrame.Hex.Lenient
import SerialFrame.Proofs.Hex.Exact

/-!
# What a lenient reading gives

The lenient reader goes through a text once, with at most one digit held back. `readFrom_eq` says
what comes of it in terms of the whole text: all digits are packed, all strays are counted, and the
last digit is dropped if their number is odd. So it gives what the exact reader gives, and loses
nothing, wherever that reads at all and nowhere else (`readExact_eq_ok_iff_readLenient`). Two texts
are read as one if the digits of the first come in pairs (`readLenient_append`).
-/

namespace SerialFrame.Hex

/-- The last one of an odd number of digits. -/
def unpaired (digits : List Char) : Option Char :=
  if digits.length % 2 = 0 then none else digits.getLast?

theorem length_digits (text : List Char) :
    (digits text).length = (text.filterMap nibble?).length := by
  rw [digits, List.length_filterMap_eq_countP, List.countP_eq_length_filter]
  rfl

theorem unpaired_cons_cons (c d : Char) (digits : List Char) :
    unpaired (c :: d :: digits) = unpaired digits := by
  cases digits with
  | nil => simp [unpaired]
  | cons e digits =>
    rw [unpaired, unpaired, List.length_cons, List.length_cons, Nat.add_assoc, Nat.add_mod_right,
      List.getLast?_cons_cons, List.getLast?_cons_cons]

theorem unpaired_append {digits : List Char} (h : digits.length % 2 = 0) (rest : List Char) :
    unpaired (digits ++ rest) = unpaired rest := by
  have hlength : (digits ++ rest).length % 2 = rest.length % 2 := by
    rw [List.length_append]
    omega
  rw [unpaired, unpaired, hlength]
  by_cases hrest : rest.length % 2 = 0
  · rw [if_pos hrest, if_pos hrest]
  · have hne : rest ≠ [] := by
      rintro rfl
      exact hrest rfl
    rw [if_neg hrest, if_neg hrest, List.getLast?_append_of_ne_nil _ hne]

theorem length_unpaired (digits : List Char) :
    (unpaired digits).toList.length = digits.length % 2 := by
  rw [unpaired]
  by_cases heven : digits.length % 2 = 0
  · rw [if_pos heven, heven]
    rfl
  · have hne : digits ≠ [] := by
      rintro rfl
      exact heven rfl
    rw [if_neg heven, List.getLast?_eq_some_getLast hne, Option.toList_some, List.length_singleton]
    omega

theorem unpaired_eq_none_iff {digits : List Char} :
    unpaired digits = none ↔ digits.length % 2 = 0 := by
  rw [← length_unpaired]
  cases unpaired digits <;> simp

theorem pack_cons_cons (high low : Nibble) (rest : List Nibble) :
    pack (high :: low :: rest) = byte high low :: pack rest := rfl

theorem readFrom_nil (pending : Option (Char × Nibble)) :
    readFrom pending [] = ⟨[], 0, pending.map (·.1)⟩ := rfl

theorem readFrom_cons (pending : Option (Char × Nibble)) (c : Char) (text : List Char) :
    readFrom pending (c :: text) =
      match nibble? c, pending with
      | some n, none => readFrom (some (c, n)) text
      | some n, some (_, high) =>
        { readFrom none text with bytes := byte high n :: (readFrom none text).bytes }
      | none, _ =>
        if Text.isBlank c then readFrom pending text
        else { readFrom pending text with stripped := (readFrom pending text).stripped + 1 } := rfl

/-- The reading of a text with a digit held back, or with none. -/
theorem readFrom_eq (pending : Option (Char × Nibble)) (text : List Char) :
    readFrom pending text =
      { bytes := pack ((pending.map (·.2)).toList ++ text.filterMap nibble?)
        stripped := (strays text).length
        droppedNibble := unpaired ((pending.map (·.1)).toList ++ digits text) } := by
  induction text generalizing pending with
  | nil => cases pending <;> simp [readFrom_nil, pack, strays, digits, unpaired]
  | cons c text ih =>
    rw [readFrom_cons]
    -- A digit meets the one held back, if there is one; what is no digit leaves that one waiting.
    cases hc : nibble? c with
    | some n =>
      have hdigit : isDigit c = true := by simp [isDigit, hc]
      have hstray : ¬ isStray c = true := by simp [isStray, hdigit]
      rw [List.filterMap_cons_some hc, strays, List.filter_cons_of_neg hstray, digits,
        List.filter_cons_of_pos hdigit]
      cases pending with
      | none => exact ih (some (c, n))
      | some held =>
        dsimp only
        rw [ih none]
        simp only [Option.map_some, Option.map_none, Option.toList_some, Option.toList_none,
          List.singleton_append, List.nil_append, pack_cons_cons, unpaired_cons_cons]
        rfl
    | none =>
      have hdigit : ¬ isDigit c = true := by simp [isDigit, hc]
      rw [List.filterMap_cons_none hc, digits, List.filter_cons_of_neg hdigit]
      dsimp only
      rw [ih pending]
      by_cases hblank : Text.isBlank c = true
      · have hstray : ¬ isStray c = true := by simp [isStray, hblank]
        rw [if_pos hblank, strays, strays, List.filter_cons_of_neg hstray]
        rfl
      · have hstray : isStray c = true := by simp [isStray, isDigit, hc, hblank]
        rw [if_neg hblank, strays, strays, List.filter_cons_of_pos hstray]
        rfl

theorem readLenient_eq (text : String) :
    readLenient text =
      { bytes := pack (text.toList.filterMap nibble?)
        stripped := (strays text.toList).length
        droppedNibble := unpaired (digits text.toList) } :=
  readFrom_eq none text.toList

theorem readExact_eq_ok_iff_readLenient {text : String} {bytes : Bytes} :
    readExact text = .ok bytes ↔ readLenient text = ⟨bytes, 0, none⟩ := by
  rw [readExact_eq_ok_iff, readLenient_eq, Reading.mk.injEq, List.length_eq_zero_iff,
    unpaired_eq_none_iff, length_digits]
  tauto

theorem readLenient_of_readExact {text : String} {bytes : Bytes} (h : readExact text = .ok bytes) :
    readLenient text = ⟨bytes, 0, none⟩ :=
  readExact_eq_ok_iff_readLenient.mp h

theorem length_digits_eq (text : String) :
    (digits text.toList).length =
      2 * (readLenient text).bytes.length + (readLenient text).droppedNibble.toList.length := by
  rw [readLenient_eq, length_pack, length_unpaired, ← length_digits]
  omega

/-- A text whose digits come in pairs is read apart from what follows it. -/
theorem readLenient_append {first : String} (h : (digits first.toList).length % 2 = 0)
    (second : String) :
    readLenient (first ++ second) =
      { bytes := (readLenient first).bytes ++ (readLenient second).bytes
        stripped := (readLenient first).stripped + (readLenient second).stripped
        droppedNibble := (readLenient second).droppedNibble } := by
  have hnibbles : (first.toList.filterMap nibble?).length % 2 = 0 := by rwa [← length_digits]
  rw [readLenient_eq, readLenient_eq, readLenient_eq, String.toList_append, List.filterMap_append,
    pack_append hnibbles]
  simp only [strays, digits, List.filter_append, List.length_append] at h ⊢
  rw [unpaired_append h]

end SerialFrame.Hex
