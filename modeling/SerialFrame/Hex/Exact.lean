import SerialFrame.Hex.Digit
import SerialFrame.Text.Quoted

/-!
# Exact reading of hex text

Text written by a program is read only if nothing would be lost: every character must be a digit or
a blank, and the digits must come in pairs. A stray is reported before an odd number of digits.
-/

namespace SerialFrame.Hex

inductive Defect
  /-- `c` at `position`, counted in characters from 0, is neither a digit nor a blank. -/
  | invalidCharacter (c : Char) (position : Nat)
  | oddLength (digits : Nat)
  deriving DecidableEq, Repr

def Defect.message : Defect → String
  | .invalidCharacter c position =>
    "invalid hex character " ++ Text.quotedChar c ++ " at position " ++ position.repr
  | .oddLength digits => "odd number of hex digits: " ++ digits.repr

def firstStray? (position : Nat) : List Char → Option (Char × Nat)
  | [] => none
  | c :: text => if isStray c then some (c, position) else firstStray? (position + 1) text

def readExact (text : String) : Except Defect Bytes :=
  match firstStray? 0 text.toList with
  | some (c, position) => .error (.invalidCharacter c position)
  | none =>
    let nibbles := text.toList.filterMap nibble?
    if nibbles.length % 2 = 0 then .ok (pack nibbles) else .error (.oddLength nibbles.length)

end SerialFrame.Hex
