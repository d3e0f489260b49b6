import SerialFrame.Counter.Value
import SerialFrame.Word

/-!
# Advancing in words

`advance` adds without a bound. Here the step is added one byte after another, from the last on and
until nothing is left to carry, in words of 128 bits: there is no result if a word runs over.
-/

namespace SerialFrame.Counter

/-- Adds the low byte of what is carried to the byte `b`. What runs over joins the rest of it. -/
def addByte? (b : UInt8) (carry : Nat) : Option (UInt8 × Nat) := do
  let sum ← Word.ofInt? 128 (b.toNat + (carry % 256 : Nat))
  let carry ← Word.ofInt? 128 ((carry / 256 : Nat) + (sum / 256 : Nat))
  return (UInt8.ofNat sum, carry)

def addLow? : Bytes → Nat → Option Bytes
  | [], _ => some []
  | b :: rest, carry =>
    if carry = 0 then some (b :: rest)
    else do
      let (b, carry) ← addByte? b carry
      let rest ← addLow? rest carry
      return b :: rest

def advance? (value : Bytes) (step : UInt64) : Option Bytes :=
  (addLow? value.reverse step.toNat).map List.reverse

end SerialFrame.Counter
