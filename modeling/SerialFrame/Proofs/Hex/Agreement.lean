import SerialFrame.Hex.Collected
import SerialFrame.Proofs.Bytes.Number
import SerialFrame.Proofs.Hex.Digit
import SerialFrame.Proofs.Hex.Lenient

/-!
# The two readers agree

Both readers of hex text give the digits of a text in pairs; they differ in what they do about the
rest. `readers_agree` says what the lenient one gives, in terms of the characters of the text, and
that the exact one takes a text if and only if the lenient one loses nothing, and else reports the
first thing that is lost. It makes no difference whether strays are looked for before the digits are
collected or on the way (`readCollected_eq`).
-/

namespace SerialFrame.Hex

/-! ### Digits in pairs -/

/-- The bytes are the digits in pairs, the first of a pair being the high half. -/
structure Packs (digits : List Char) (bytes : Bytes) : Prop where
  length : bytes.length = digits.length / 2
  pair : ∀ k high low, digits[2 * k]? = some high → digits[2 * k + 1]? = some low →
    bytes[k]?.map UInt8.toNat = some (16 * place high + place low)

theorem getElem?_pack {halves : List Nibble} {k : Nat} {high low : Nibble}
    (hhigh : halves[2 * k]? = some high) (hlow : halves[2 * k + 1]? = some low) :
    (pack halves)[k]? = some (byte high low) := by
  fun_induction pack halves generalizing k with
  | case1 first second rest ih =>
    cases k with
    | zero =>
      obtain rfl := Option.some.inj hhigh
      obtain rfl := Option.some.inj hlow
      rfl
    | succ k => exact ih hhigh hlow
  | case2 halves hshort =>
    rcases halves with _ | ⟨first, _ | ⟨second, rest⟩⟩
    · cases hhigh
    · simp at hlow
    · exact absurd rfl (hshort first second rest)

theorem exists_nibble {text : List Char} {i : Nat} {c : Char} (h : (digits text)[i]? = some c) :
    ∃ n, (text.filterMap nibble?)[i]? = some n ∧ n.val = place c := by
  have hval : ((text.filterMap nibble?).map Fin.val)[i]? = some (place c) := by
    rw [map_nibbles (fun _ _ => val_eq_place), List.getElem?_map, h, Option.map_some]
  rwa [List.getElem?_map, Option.map_eq_some_iff] at hval

theorem packs_pack (text : List Char) : Packs (digits text) (pack (text.filterMap nibble?)) := by
  refine ⟨?_, fun k high low hhigh hlow => ?_⟩
  · rw [length_pack, length_digits]
  · obtain ⟨n, hn, hvaln⟩ := exists_nibble hhigh
    obtain ⟨m, hm, hvalm⟩ := exists_nibble hlow
    rw [getElem?_pack hn hm, Option.map_some, toNat_byte, hvaln, hvalm]

/-! ### The first stray -/

/-- The character `c` at `position` is a stray and none stands before it. -/
def FirstStray (text : List Char) (c : Char) (position : Nat) : Prop :=
  ∃ front rest, text = front ++ c :: rest ∧ front.length = position ∧ isStray c = true ∧
    ∀ d ∈ front, isStray d = false

namespace FirstStray

variable {text : List Char} {c d : Char} {position : Nat}

theorem strays_ne_nil (h : FirstStray text c position) : strays text ≠ [] := by
  obtain ⟨front, rest, rfl, -, hc, -⟩ := h
  exact List.ne_nil_of_mem (List.mem_filter.mpr ⟨by simp, hc⟩)

theorem cons_iff_of_stray (hd : isStray d = true) :
    FirstStray (d :: text) c position ↔ d = c ∧ position = 0 := by
  constructor
  · rintro ⟨front, rest, htext, rfl, -, hfront⟩
    cases front with
    | nil => exact ⟨(List.cons.inj htext).1, rfl⟩
    | cons e front =>
      obtain ⟨rfl, -⟩ := List.cons.inj htext
      rw [hfront d List.mem_cons_self] at hd
      cases hd
  · rintro ⟨rfl, rfl⟩
    exact ⟨[], text, rfl, rfl, hd, List.forall_mem_nil _⟩

theorem cons_iff (hd : isStray d = false) :
    FirstStray (d :: text) c position ↔ ∃ k, position = k + 1 ∧ FirstStray text c k := by
  constructor
  · rintro ⟨front, rest, htext, rfl, hc, hfront⟩
    cases front with
    | nil =>
      obtain ⟨rfl, -⟩ := List.cons.inj htext
      rw [hc] at hd
      cases hd
    | cons e front =>
      obtain ⟨-, rfl⟩ := List.cons.inj htext
      exact ⟨front.length, rfl, front, rest, rfl, rfl, hc, (List.forall_mem_cons.mp hfront).2⟩
  · rintro ⟨_, rfl, front, rest, rfl, rfl, hc, hfront⟩
    exact ⟨d :: front, rest, rfl, rfl, hc, List.forall_mem_cons.mpr ⟨hd, hfront⟩⟩

end FirstStray

theorem firstStray?_eq_some_iff {text : List Char} {start position : Nat} {c : Char} :
    firstStray? start text = some (c, position) ↔
      ∃ offset, position = start + offset ∧ FirstStray text c offset := by
  -- Offsets are counted from `start`, which moves on with every character.
  induction text generalizing start with
  | nil => simp [firstStray?, FirstStray]
  | cons d text ih =>
    rw [firstStray?]
    cases hd : isStray d with
    | true => simp [FirstStray.cons_iff_of_stray hd, eq_comm, and_comm]
    | false =>
      rw [if_neg Bool.false_ne_true, ih]
      simp only [FirstStray.cons_iff hd]
      constructor
      · rintro ⟨k, rfl, h⟩
        exact ⟨k + 1, by omega, k, rfl, h⟩
      · rintro ⟨_, rfl, k, rfl, h⟩
        exact ⟨k, by omega, h⟩

theorem readExact_eq_invalidCharacter_iff {text : String} {c : Char} {position : Nat} :
    readExact text = .error (.invalidCharacter c position) ↔ FirstStray text.toList c position := by
  have hfirst : firstStray? 0 text.toList = some (c, position) ↔
      FirstStray text.toList c position := by
    rw [firstStray?_eq_some_iff]
    simp
  rw [← hfirst, readExact]
  cases firstStray? 0 text.toList with
  | some stray => simp [Prod.ext_iff]
  | none =>
    dsimp only
    split <;> simp

theorem readExact_eq_oddLength_iff {text : String} {count : Nat} :
    readExact text = .error (.oddLength count) ↔
      strays text.toList = [] ∧ (digits text.toList).length % 2 = 1 ∧
        count = (digits text.toList).length := by
  rw [readExact, ← firstStray?_eq_none_iff 0, length_digits]
  cases firstStray? 0 text.toList with
  | some stray => simp
  | none =>
    dsimp only
    split
    · next heven => simp [heven]
    · next hodd =>
      have hone := Nat.mod_two_ne_zero.mp hodd
      simp [hone, eq_comm]

theorem collect_eq (position : Nat) (found : List Nibble) (text : List Char) :
    collect position found text =
      match firstStray? position text with
      | some (c, position) => .error (.invalidCharacter c position)
      | none => .ok (found ++ text.filterMap nibble?) := by
  induction text generalizing position found with
  | nil => simp [collect, firstStray?]
  | cons c text ih =>
    rw [collect, firstStray?]
    by_cases hblank : Text.isBlank c = true
    · have hnone : nibble? c = none := by
        cases hc : nibble? c with
        | none => rfl
        | some n =>
          rw [not_isBlank_of_isDigit (isDigit_of_nibble? hc)] at hblank
          cases hblank
      have hstray : ¬ isStray c = true := by simp [isStray, hblank]
      rw [if_pos hblank, if_neg hstray, ih, List.filterMap_cons_none hnone]
    · rw [if_neg hblank]
      cases hc : nibble? c with
      | none =>
        have hstray : isStray c = true := by simp [isStray, isDigit, hc, hblank]
        rw [if_pos hstray]
      | some n =>
        have hstray : ¬ isStray c = true := by simp [isStray, isDigit, hc]
        dsimp only
        rw [if_neg hstray, ih, List.filterMap_cons_some hc, List.append_assoc]
        rfl

theorem readCollected_eq (text : String) : readCollected text = readExact text := by
  rw [readCollected, readExact, collect_eq]
  cases firstStray? 0 text.toList with
  | some stray => rfl
  | none =>
    by_cases heven : (text.toList.filterMap nibble?).length % 2 = 0
    · simp only [bind, Except.bind, List.nil_append, heven, ne_eq, not_true_eq_false, if_false,
        if_true]
      rfl
    · simp only [bind, Except.bind, List.nil_append, heven, ne_eq, not_false_eq_true, if_true,
        if_false]
      rfl

/-- Both readers pair up the digits of a text, wherever these stand in it. The lenient one tells how
many strays it skipped and which digit is left over. The exact one takes a text if and only if the
lenient one loses nothing, and gives the same bytes; else it names the first stray, and an odd
number of digits only if there is none. -/
theorem readers_agree (text : String) :
    digits text.toList = text.toList.filter (· ∈ alphabet) ∧
    strays text.toList = text.toList.filter (fun c => c ∉ alphabet ∧ ¬ Text.isBlank c) ∧
    Packs (digits text.toList) (readLenient text).bytes ∧
    (readLenient text).stripped = (strays text.toList).length ∧
    (readLenient text).droppedNibble = unpaired (digits text.toList) ∧
    (∀ bytes, readExact text = .ok bytes ↔
      (readLenient text).lossy = false ∧ bytes = (readLenient text).bytes) ∧
    (∀ c position, readExact text = .error (.invalidCharacter c position) ↔
      0 < (readLenient text).stripped ∧ FirstStray text.toList c position) ∧
    (∀ count, readExact text = .error (.oddLength count) ↔
      (readLenient text).stripped = 0 ∧ (readLenient text).droppedNibble ≠ none ∧
        count = (digits text.toList).length) ∧
    readCollected text = readExact text := by
  have hstripped : (readLenient text).stripped = (strays text.toList).length := by
    rw [readLenient_eq]
  have hdropped : (readLenient text).droppedNibble = unpaired (digits text.toList) := by
    rw [readLenient_eq]
  refine ⟨?_, ?_, ?_, hstripped, hdropped, fun bytes => ?_, fun c position => ?_, fun count => ?_,
    readCollected_eq text⟩
  · exact List.filter_congr fun c _ => by rw [Bool.eq_iff_iff, isDigit_iff, decide_eq_true_eq]
  · exact List.filter_congr fun c _ => by rw [Bool.eq_iff_iff, isStray_iff, decide_eq_true_eq]
  · rw [readLenient_eq]
    exact packs_pack text.toList
  · rw [readExact_eq_ok_iff_readLenient]
    obtain ⟨read, stripped, dropped⟩ := readLenient text
    cases dropped <;> simp [Reading.lossy, eq_comm, and_comm]
  · rw [readExact_eq_invalidCharacter_iff, hstripped, List.length_pos_iff]
    exact ⟨fun h => ⟨h.strays_ne_nil, h⟩, And.right⟩
  · rw [readExact_eq_oddLength_iff, hstripped, hdropped, List.length_eq_zero_iff, ne_eq,
      unpaired_eq_none_iff, Nat.mod_two_not_eq_zero]

/-- The stray is reported, though it stands behind an odd number of digits and inside a byte; its
position counts characters. -/
example : readLenient "é1\u2003g2 3" = ⟨[0x12], 2, some '3'⟩ ∧
    readExact "é1\u2003g2 3" = .error (.invalidCharacter 'é' 0) ∧
    readExact "1\u2003g2" = .error (.invalidCharacter 'g' 2) := by
  decide +kernel

end SerialFrame.Hex
