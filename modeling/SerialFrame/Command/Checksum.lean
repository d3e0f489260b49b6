import SerialFrame.Command.Error
import SerialFrame.Hex.Render

/-!
# The checksum command

The checksum of bytes given as hex texts.
-/

namespace SerialFrame

structure ChecksumReport where
  algorithm : Checksum.Algorithm
  inputLength : Nat
  value : Nat
  bytes : Bytes
  deriving DecidableEq, Repr

namespace ChecksumReport

/-- Reads the name of a byte order, in full or by its initials, in either letter case. -/
def readByteOrder (value : String) : Except CommandError ByteOrder :=
  match Text.lowerAscii value with
  | "big" | "be" => .ok .big
  | "little" | "le" => .ok .little
  | _ => .error (.invalidArgument "byte order" value)

def compute (algorithm : String) (texts : List String) (byteOrder : Option String) :
    Except CommandError ChecksumReport := do
  let algorithm ← (Checksum.Algorithm.parse algorithm).mapError .unknownAlgorithm
  let input ← (Hex.readExact (String.join texts)).mapError .hex
  let order ← byteOrder.mapM readByteOrder
  return {
    algorithm
    inputLength := input.length
    value := (algorithm.compute input).toNat
    bytes := algorithm.checksumBytes input order }

def digits (r : ChecksumReport) : String :=
  Hex.compact (ByteOrder.big.encode r.value r.algorithm.width)

def lines (r : ChecksumReport) : List String :=
  [r.algorithm.name ++ " over " ++ r.inputLength.repr ++ " byte(s): 0x" ++ r.digits,
    "wire: " ++ Hex.spaced r.bytes]

end ChecksumReport

end SerialFrame
