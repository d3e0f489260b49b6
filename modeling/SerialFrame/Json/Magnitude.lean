import SerialFrame.Json.Value

/-!
# Numbers too large for a double

A number that is no 64-bit integer is read as a double: its digits give a 64-bit significand and a
decimal exponent, both are rounded to a double and multiplied. `Numeral.tooLarge` says that the
product is infinite. It is worked out in whole numbers, since only large products matter.
-/

namespace SerialFrame.Json

structure Scaled where
  significand : Nat
  exponent : Int
  deriving DecidableEq, Repr

namespace Scaled

def push? (s : Scaled) (c : Char) : Option Scaled :=
  let significand := 10 * s.significand + (c.toNat - 48)
  if significand < UInt64.size then some { s with significand } else none

/-- Takes in the digits before the point; those that do not fit only scale. -/
def whole (s : Scaled) : List Char → Scaled
  | [] => s
  | c :: rest =>
    match s.push? c with
    | some s => s.whole rest
    | none => { s with exponent := s.exponent + (c :: rest).length }

-- The parentheses around the proof keep Lean from making this a rule for `dsimp`: it would count up
-- to `UInt64.size` to check that.
theorem whole_cons (s : Scaled) (c : Char) (rest : List Char) :
    s.whole (c :: rest) =
      match s.push? c with
      | some s => s.whole rest
      | none => { s with exponent := s.exponent + (c :: rest).length } := (rfl)

/-- Takes in the digits behind the point; those that do not fit are dropped. -/
def fraction (s : Scaled) : List Char → Scaled
  | [] => s
  | c :: rest =>
    match s.push? c with
    | some s => { s with exponent := s.exponent - 1 }.fraction rest
    | none => s

end Scaled

def Numeral.scaled (n : Numeral) : Scaled :=
  (Scaled.whole ⟨0, 0⟩ n.whole).fraction (n.fraction.getD [])

def roundToDouble (n : Nat) : Nat :=
  let unit := 1 <<< (n.log2 - 52)
  let quotient := n / unit
  let rest := 2 * (n % unit)
  if unit < rest ∨ (unit = rest ∧ quotient % 2 = 1) then (quotient + 1) * unit else quotient * unit

def doubleLimit : Nat :=
  (1 <<< 1024) - (1 <<< 970)

def overflows (significand : Nat) (exponent : Int) : Bool :=
  significand ≠ 0 && decide (0 ≤ exponent) &&
    (decide (308 < exponent) ||
      decide (doubleLimit ≤ roundToDouble significand * roundToDouble (Nat.pow 10 exponent.toNat)))

/-- The number is infinite as a double. An exponent beyond 32 bits is not added to that of the
places. -/
def Numeral.tooLarge (n : Numeral) : Bool :=
  let s := n.scaled
  match n.exponent with
  | none => overflows s.significand s.exponent
  | some (negative, digits) =>
    let value := digitsValue digits
    if value < 1 <<< 31 then
      overflows s.significand (if negative then s.exponent - value else s.exponent + value)
    else !negative && s.significand ≠ 0

end SerialFrame.Json
