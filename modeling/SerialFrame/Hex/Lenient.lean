import SerialFrame.Hex.Digit

/-!
# Lenient reading of hex text

Text typed by a person is read as well as it can be: strays are skipped and counted, and a digit
left without a partner is dropped and reported. The reader takes the text one character at a time
and holds at most one digit back.
-/

namespace SerialFrame.Hex

structure Reading where
  bytes : Bytes
  stripped : Nat
  droppedNibble : Option Char
  deriving DecidableEq, Repr

def Reading.lossy (r : Reading) : Bool :=
  decide (0 < r.stripped) || r.droppedNibble.isSome

/-- Reads `text`, the digit `pending` still waiting for its partner. -/
def readFrom : Option (Char × Nibble) → List Char → Reading
  | pending, [] => ⟨[], 0, pending.map (·.1)⟩
  | pending, c :: text =>
    match nibble? c, pending with
    | some n, none => readFrom (some (c, n)) text
    | some n, some (_, high) =>
      let rest := readFrom none text
      { rest with bytes := byte high n :: rest.bytes }
    | none, _ =>
      let rest := readFrom pending text
      if Text.isBlank c then rest else { rest with stripped := rest.stripped + 1 }

def readLenient (text : String) : Reading :=
  readFrom none text.toList

end SerialFrame.Hex
