import SerialFrame.Bytes.Order

/-!
# Integers in machine words

An integer of 64 bits has eight bytes. Cut to the lowest of them, or with zeros in front, they write
it most significant byte first in any number of bytes; turned round, least significant byte first.
-/

namespace SerialFrame

def Bytes.ofWord (value : UInt64) : Bytes :=
  ([56, 48, 40, 32, 24, 16, 8, 0] : List UInt64).map fun shift => (value >>> shift).toUInt8

/-- The lowest `width` bytes of a word, zeros on the high side if there are not as many. -/
def ByteOrder.encodeWord (order : ByteOrder) (value : UInt64) (width : Nat) : Bytes :=
  let bytes := Bytes.ofWord value
  let fitted :=
    if width ≤ bytes.length then bytes.drop (bytes.length - width)
    else List.replicate (width - bytes.length) 0 ++ bytes
  match order with
  | .big => fitted
  | .little => fitted.reverse

end SerialFrame
