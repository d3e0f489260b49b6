import Mathlib.Data.Nat.Digits.Lemmas
import Mathlib.Tactic
import SerialFrame.Bytes.Lemmas
import SerialFrame.Hex.Digit

/-!
# Numbers in bytes and in digits

Bytes and hexadecimal digits both write numbers highest place first, and packing digits into bytes
keeps the number (`value_pack`). A byte string is the only one of its length with its number
(`eq_encode`).
-/

namespace SerialFrame

open Nat (ofDigits)

/-- The number that a row of hexadecimal digits writes, highest digit first. -/
def Hex.value (digits : List Hex.Nibble) : Nat :=
  digits.foldl (fun n d => 16 * n + d.val) 0

/-- The number spelled by the hexadecimal digits of a text, all other characters ignored. -/
def Hex.number (text : String) : Nat :=
  Hex.value (text.toList.filterMap Hex.nibble?)

theorem foldl_eq_ofDigits (base : Nat) (digits : List Nat) :
    digits.foldl (fun n d => base * n + d) 0 = ofDigits base digits.reverse := by
  induction digits using List.reverseRecOn with
  | nil => rfl
  | append_singleton digits d ih =>
    rw [List.foldl_append, ih, List.reverse_append, List.reverse_singleton, List.singleton_append,
      Nat.ofDigits_cons]
    exact Nat.add_comm _ _

namespace Bytes

theorem value_eq_ofDigits (bytes : Bytes) :
    bytes.value = ofDigits 256 (bytes.map UInt8.toNat).reverse := by
  rw [← foldl_eq_ofDigits, List.foldl_map]
  rfl

theorem value_cons (b : UInt8) (bytes : Bytes) :
    value (b :: bytes) = b.toNat * 256 ^ bytes.length + value bytes := by
  rw [value_eq_ofDigits, value_eq_ofDigits, List.map_cons, Nat.ofDigits_reverse_cons,
    List.length_map, Nat.mul_comm, Nat.add_comm]

theorem lt_of_mem_digits {bytes : Bytes} {d : Nat} (h : d ∈ bytes.map UInt8.toNat) : d < 256 := by
  obtain ⟨b, -, rfl⟩ := List.mem_map.mp h
  exact b.toNat_lt

theorem value_lt (bytes : Bytes) : bytes.value < 256 ^ bytes.length := by
  have hdigits : ∀ d ∈ (bytes.map UInt8.toNat).reverse, d < 256 := fun d hd =>
    lt_of_mem_digits (List.mem_reverse.mp hd)
  have hlt := Nat.ofDigits_lt_base_pow_length (by decide) hdigits
  rwa [← value_eq_ofDigits, List.length_reverse, List.length_map] at hlt

theorem littleEndian_mod (width n : Nat) :
    littleEndian width (n % 256 ^ width) = littleEndian width n := by
  induction width generalizing n with
  | zero => rfl
  | succ width ih =>
    have hlow : UInt8.ofNat (n % 256 ^ (width + 1)) = UInt8.ofNat n := by
      apply UInt8.toNat_inj.mp
      rw [UInt8.toNat_ofNat', UInt8.toNat_ofNat']
      exact Nat.mod_mod_of_dvd n (Dvd.intro_left _ (Nat.pow_succ ..).symm)
    have hhigh : n % 256 ^ (width + 1) / 256 = n / 256 % 256 ^ width := by
      rw [Nat.pow_succ', Nat.mod_mul_right_div_self]
    rw [littleEndian, littleEndian, hlow, hhigh, ih]

theorem littleEndian_littleValue (bytes : Bytes) :
    littleEndian bytes.length (littleValue bytes) = bytes := by
  induction bytes with
  | nil => rfl
  | cons b bytes ih =>
    have hb := b.toNat_lt
    have hlow : UInt8.ofNat (b.toNat + 256 * littleValue bytes) = b := by
      apply UInt8.toNat_inj.mp
      rw [UInt8.toNat_ofNat']
      omega
    have hhigh : (b.toNat + 256 * littleValue bytes) / 256 = littleValue bytes := by omega
    rw [List.length_cons, littleValue, littleEndian, hlow, hhigh, ih]

theorem eq_encode {bytes : Bytes} {width n : Nat} (hlength : bytes.length = width)
    (hvalue : bytes.value = n % 256 ^ width) : bytes = ByteOrder.big.encode n width := by
  have hlittle : littleValue bytes.reverse = n % 256 ^ width := by
    rw [← value_reverse, List.reverse_reverse, hvalue]
  have hbytes := littleEndian_littleValue bytes.reverse
  rw [List.length_reverse, hlength, hlittle, littleEndian_mod] at hbytes
  rw [ByteOrder.encode, hbytes, List.reverse_reverse]

end Bytes

namespace Hex

theorem value_eq_ofDigits (digits : List Nibble) :
    value digits = ofDigits 16 (digits.map Fin.val).reverse := by
  rw [← foldl_eq_ofDigits, List.foldl_map]
  rfl

theorem value_cons (d : Nibble) (digits : List Nibble) :
    value (d :: digits) = d.val * 16 ^ digits.length + value digits := by
  rw [value_eq_ofDigits, value_eq_ofDigits, List.map_cons, Nat.ofDigits_reverse_cons,
    List.length_map, Nat.mul_comm, Nat.add_comm]

theorem toNat_byte (high low : Nibble) : (byte high low).toNat = 16 * high.val + low.val := by
  have hhigh := high.isLt
  have hlow := low.isLt
  rw [byte, UInt8.toNat_ofNat']
  omega

theorem value_pack {width : Nat} {digits : List Nibble} (h : digits.length = 2 * width) :
    (pack digits).value = value digits := by
  induction width generalizing digits with
  | zero =>
    rw [List.eq_nil_of_length_eq_zero h]
    rfl
  | succ width ih =>
    match digits, h with
    | high :: low :: rest, h =>
      have hrest : rest.length = 2 * width := by
        simp only [List.length_cons] at h
        omega
      have hpack : (pack rest).length = width := by
        rw [length_pack, hrest, Nat.mul_div_cancel_left width (by decide)]
      have hpow : 256 ^ width = 16 ^ (2 * width) := by rw [Nat.pow_mul]
      rw [pack, Bytes.value_cons, ih hrest, hpack, toNat_byte, value_cons, value_cons,
        List.length_cons, hrest, hpow, Nat.pow_succ]
      ring

end Hex

end SerialFrame
