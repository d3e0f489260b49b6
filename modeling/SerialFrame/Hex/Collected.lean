import SerialFrame.Hex.Exact

/-!
# Exact reading, digits first

Exact reading in two goes: the digits are collected, up to the first stray, and then cut into pairs.
-/

namespace SerialFrame.Hex

/-- Collects the digits of a text behind those that were `found`; `position` is that of the next
character. -/
def collect (position : Nat) (found : List Nibble) : List Char → Except Defect (List Nibble)
  | [] => .ok found
  | c :: text =>
    if Text.isBlank c then collect (position + 1) found text
    else
      match nibble? c with
      | some n => collect (position + 1) (found ++ [n]) text
      | none => .error (.invalidCharacter c position)

def readCollected (text : String) : Except Defect Bytes := do
  let found ← collect 0 [] text.toList
  if found.length % 2 ≠ 0 then throw (.oddLength found.length)
  return pack found

end SerialFrame.Hex
