import SerialFrame.Checksum.Splice
import SerialFrame.Word

/-!
# Placing a checksum, checked

A checksum is placed as in `Splice.of?` and `Splice.apply`, but every step is checked: a distance or
an offset has to be a word of 64 bits, and what is covered or moved aside has to lie in the buffer.
There is no result if a step fails.
-/

namespace SerialFrame

namespace Bytes

def slice? (bytes : Bytes) (start stop : Nat) : Option Bytes :=
  if start ≤ stop ∧ stop ≤ bytes.length then some ((bytes.take stop).drop start) else none

def insert? (bytes : Bytes) (offset : Nat) (new : Bytes) : Option Bytes :=
  if offset ≤ bytes.length then some (bytes.take offset ++ new ++ bytes.drop offset) else none

end Bytes

namespace Checksum

/-- The offset that `endIndex` stands for, and whether it had to be moved into the frame. -/
def splitIndex? (length : Nat) (endIndex : Int64) : Option (Nat × Bool) :=
  if 0 ≤ endIndex.toInt then some (length, false)
  else do
    -- The lowest index has no opposite among signed words; its distance from 0 is an unsigned one.
    let back ← Word.ofInt? 64 (-endIndex.toInt)
    match Word.ofInt? 64 (length - back) with
    | some offset => return (offset, false)
    | none => return (0, true)

def Splice.checked? (algorithm : Algorithm) (config : ChecksumConfig) (buffer : Bytes) :
    Option Splice := do
  let (offset, moved) ← splitIndex? buffer.length config.endIndex
  let start := min config.startIndex.toNat offset
  let covered ← buffer.slice? start offset
  return {
    algorithm, start, offset
    value := algorithm.checksumBytes covered config.byteOrder
    clamped := moved || decide (offset < config.startIndex.toNat) }

def Splice.apply? (s : Splice) (buffer : Bytes) : Option Bytes :=
  buffer.insert? s.offset s.value

end Checksum

end SerialFrame
