import SerialFrame.Token.Basic

/-!
# Placing a checksum

A checksum token covers part of the frame as it stands and is inserted right behind that part.
Indices that lie outside the frame are moved to its nearest end, and the splice says so.
-/

namespace SerialFrame.Checksum

structure Splice where
  algorithm : Algorithm
  start : Nat
  /-- The offset behind the last byte covered, where the checksum is inserted. -/
  offset : Nat
  value : Bytes
  clamped : Bool
  deriving DecidableEq, Repr

/-- The offset in a frame of `length` bytes that `endIndex` stands for, and whether it had to be
moved into the frame. -/
def splitIndex (length : Nat) (endIndex : Int) : Nat × Bool :=
  if 0 ≤ endIndex then (length, false)
  else if endIndex.natAbs ≤ length then (length - endIndex.natAbs, false)
  else (0, true)

def Splice.of? (config : ChecksumConfig) (buffer : Bytes) : Option Splice :=
  (Algorithm.ofName? config.algorithm).map fun algorithm =>
    let (offset, moved) := splitIndex buffer.length config.endIndex.toInt
    let start := min config.startIndex.toNat offset
    { algorithm, start, offset
      value := algorithm.checksumBytes ((buffer.take offset).drop start) config.byteOrder
      clamped := moved || decide (offset < config.startIndex.toNat) }

def Splice.apply (s : Splice) (buffer : Bytes) : Bytes :=
  buffer.take s.offset ++ s.value ++ buffer.drop s.offset

end SerialFrame.Checksum
