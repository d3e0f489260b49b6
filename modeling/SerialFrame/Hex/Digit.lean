import SerialFrame.Bytes.Basic
import SerialFrame.Text.Blank

/-!
# Hexadecimal digits

A digit is one of `0-9`, `A-F`, `a-f` and stands for half a byte. Other characters of a hex text
are blanks, which only separate, or strays. The views `digits` and `strays` of a text are what both
readers of hex text are about.
-/

namespace SerialFrame.Hex

abbrev Nibble := Fin 16

def Nibble.ofNat (n : Nat) : Nibble :=
  Fin.ofNat 16 n

def nibble? (c : Char) : Option Nibble :=
  if '0' ≤ c ∧ c ≤ '9' then some (.ofNat (c.toNat - 48))
  else if 'A' ≤ c ∧ c ≤ 'F' then some (.ofNat (c.toNat - 55))
  else if 'a' ≤ c ∧ c ≤ 'f' then some (.ofNat (c.toNat - 87))
  else none

def digit (n : Nibble) : Char :=
  if n.val < 10 then Char.ofNat (48 + n.val) else Char.ofNat (55 + n.val)

theorem nibble?_digit (n : Nibble) : nibble? (digit n) = some n := by
  revert n
  decide

def isDigit (c : Char) : Bool :=
  (nibble? c).isSome

def isStray (c : Char) : Bool :=
  !isDigit c && !Text.isBlank c

def digits (text : List Char) : List Char :=
  text.filter isDigit

def strays (text : List Char) : List Char :=
  text.filter isStray

def byte (high low : Nibble) : UInt8 :=
  UInt8.ofNat (16 * high.val + low.val)

def highNibble (b : UInt8) : Nibble :=
  .ofNat (b.toNat / 16)

def lowNibble (b : UInt8) : Nibble :=
  .ofNat b.toNat

theorem byte_nibbles (b : UInt8) : byte (highNibble b) (lowNibble b) = b := by
  apply UInt8.toNat_inj.mp
  have := b.toNat_lt
  simp only [byte, highNibble, lowNibble, Nibble.ofNat, Fin.val_ofNat, UInt8.toNat_ofNat']
  omega

/-- The bytes spelled by pairs of halves, high half first; an odd half at the end is dropped. -/
def pack : List Nibble → Bytes
  | high :: low :: rest => byte high low :: pack rest
  | _ => []

theorem length_pack (halves : List Nibble) : (pack halves).length = halves.length / 2 := by
  fun_induction pack halves with
  | case1 high low rest ih =>
    rw [List.length_cons, List.length_cons, List.length_cons, ih]
    omega
  | case2 halves hshort =>
    match halves with
    | [] => rfl
    | [_] => simp
    | high :: low :: rest => exact absurd rfl (hshort high low rest)

/-- Halves that pair up among themselves are packed apart from what follows them. -/
theorem pack_append {halves : List Nibble} (h : halves.length % 2 = 0) (rest : List Nibble) :
    pack (halves ++ rest) = pack halves ++ pack rest := by
  fun_induction pack halves with
  | case1 high low halves ih =>
    have heven : halves.length % 2 = 0 := by
      rw [List.length_cons, List.length_cons] at h
      omega
    rw [List.cons_append, List.cons_append, pack, ih heven]
    rfl
  | case2 halves hshort =>
    match halves with
    | [] => rfl
    | [_] => cases h
    | high :: low :: rest => exact absurd rfl (hshort high low rest)

end SerialFrame.Hex
