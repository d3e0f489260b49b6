import Mathlib.Tactic
import SerialFrame.Hex.Exact
import SerialFrame.Hex.Render

/-!
# Written bytes read back

The exact reader takes a text if it holds no strays and its digits come in pairs
(`readExact_eq_ok_iff`). Bytes written as hex text hold no strays and two digits each, so it gives
the same bytes, with blanks between them (`readExact_spaced`) and without (`readExact_compact`).
-/

namespace SerialFrame.Hex

theorem firstStray?_eq_none_iff {text : List Char} (position : Nat) :
    firstStray? position text = none ↔ strays text = [] := by
  induction text generalizing position with
  | nil => simp [firstStray?, strays]
  | cons c text ih =>
    rw [firstStray?]
    by_cases hc : isStray c = true
    · simp [strays, hc]
    · rw [if_neg hc, ih, strays, strays, List.filter_cons_of_neg hc]

theorem readExact_eq_ok_iff {text : String} {bytes : Bytes} :
    readExact text = .ok bytes ↔
      strays text.toList = [] ∧ (text.toList.filterMap nibble?).length % 2 = 0 ∧
        pack (text.toList.filterMap nibble?) = bytes := by
  rw [readExact, ← firstStray?_eq_none_iff 0]
  cases firstStray? 0 text.toList with
  | some stray => simp
  | none =>
    dsimp only
    split <;> simp_all

def nibbles (bytes : Bytes) : List Nibble :=
  bytes.flatMap fun b => [highNibble b, lowNibble b]

theorem length_nibbles (bytes : Bytes) : (nibbles bytes).length = 2 * bytes.length := by
  simp [nibbles, mul_comm]

theorem pack_nibbles (bytes : Bytes) : pack (nibbles bytes) = bytes := by
  induction bytes with
  | nil => rfl
  | cons b bytes ih =>
    change byte (highNibble b) (lowNibble b) :: pack (nibbles bytes) = b :: bytes
    rw [byte_nibbles, ih]

/-- A text that holds the halves of bytes and nothing else but blanks is read as these bytes. -/
theorem readExact_of_nibbles {text : List Char} {bytes : Bytes} (hstrays : strays text = [])
    (hnibbles : text.filterMap nibble? = nibbles bytes) :
    readExact (String.ofList text) = .ok bytes := by
  rw [readExact_eq_ok_iff, String.toList_ofList, hnibbles, length_nibbles, pack_nibbles]
  exact ⟨hstrays, Nat.mul_mod_right 2 _, rfl⟩

/-! ### The two forms of written bytes -/

theorem filterMap_digitPair (b : UInt8) :
    (digitPair b).filterMap nibble? = [highNibble b, lowNibble b] := by
  simp [digitPair, nibble?_digit]

theorem isStray_digit (n : Nibble) : isStray (digit n) = false := by
  rw [isStray, isDigit, nibble?_digit]
  rfl

theorem strays_digitPair (b : UInt8) : strays (digitPair b) = [] := by
  simp [strays, digitPair, isStray_digit]

theorem filterMap_compactChars (bytes : Bytes) :
    (compactChars bytes).filterMap nibble? = nibbles bytes := by
  rw [compactChars, List.filterMap_flatMap, nibbles]
  simp only [filterMap_digitPair]

theorem strays_compactChars (bytes : Bytes) : strays (compactChars bytes) = [] := by
  rw [strays, compactChars, List.filter_flatMap]
  exact List.flatMap_eq_nil_iff.mpr fun b _ => strays_digitPair b

theorem readExact_compact (bytes : Bytes) : readExact (compact bytes) = .ok bytes :=
  readExact_of_nibbles (strays_compactChars bytes) (filterMap_compactChars bytes)

theorem filterMap_spacedChars (bytes : Bytes) :
    (spacedChars bytes).filterMap nibble? = nibbles bytes := by
  fun_induction spacedChars bytes with
  | case1 => rfl
  | case2 b => exact filterMap_digitPair b
  | case3 b rest _ ih =>
    have hspace : nibble? ' ' = none := by decide
    rw [List.filterMap_append, List.filterMap_cons_none hspace, filterMap_digitPair, ih]
    rfl

theorem strays_spacedChars (bytes : Bytes) : strays (spacedChars bytes) = [] := by
  fun_induction spacedChars bytes with
  | case1 => rfl
  | case2 b => exact strays_digitPair b
  | case3 b rest _ ih =>
    have hspace : ¬ isStray ' ' = true := by decide
    have hpair := strays_digitPair b
    unfold strays at hpair ih ⊢
    rw [List.filter_append, List.filter_cons_of_neg hspace, hpair, ih]
    rfl

theorem readExact_spaced (bytes : Bytes) : readExact (spaced bytes) = .ok bytes :=
  readExact_of_nibbles (strays_spacedChars bytes) (filterMap_spacedChars bytes)

theorem toNat_digit_lt (n : Nibble) : (digit n).toNat < 128 := by
  revert n
  decide

theorem toNat_lt_of_mem_spacedChars {bytes : Bytes} {c : Char} (h : c ∈ spacedChars bytes) :
    c.toNat < 128 := by
  have hpair : ∀ b, c ∈ digitPair b → c.toNat < 128 := by
    intro b hc
    simp only [digitPair, List.mem_cons, List.not_mem_nil, or_false] at hc
    rcases hc with rfl | rfl <;> exact toNat_digit_lt _
  fun_induction spacedChars bytes with
  | case1 => cases h
  | case2 b => exact hpair b h
  | case3 b rest _ ih =>
    rcases List.mem_append.mp h with h | h
    · exact hpair b h
    rcases List.mem_cons.mp h with rfl | h
    · decide
    · exact ih h

end SerialFrame.Hex
