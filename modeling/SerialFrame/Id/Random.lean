import SerialFrame.Bytes.Order
import SerialFrame.Id
import SerialFrame.Random.Generator

/-!
# New segment ids

A segment that is made without an id gets a random one: a UUID of version 4, that is, 128 bits in
lower-case hexadecimal digits, of which six bits are fixed and hyphens set off groups of digits.
-/

namespace SerialFrame.SegmentId

def uuidChars (high low : UInt64) : List Char :=
  let high := (high &&& 0xFFFFFFFFFFFF0FFF) ||| 0x4000
  let low := (low &&& 0x3FFFFFFFFFFFFFFF) ||| 0x8000000000000000
  let bytes := ByteOrder.big.encode high.toNat 8 ++ ByteOrder.big.encode low.toNat 8
  let digits := bytes.flatMap fun b => [b.toNat / 16, b.toNat % 16].map Nat.digitChar
  [8, 4, 4, 4, 12].foldl
    (fun (text, rest) n =>
      ((if text.isEmpty then [] else text ++ ['-']) ++ rest.take n, rest.drop n))
    ([], digits) |>.1

/-- The id with the given bits, but for the six that are fixed. -/
def ofBits (high low : UInt64) : SegmentId :=
  ⟨String.ofList (uuidChars high low)⟩

def generate (r : Random) : SegmentId × Random :=
  let (high, r) := r.next
  let (low, r) := r.next
  (ofBits high low, r)

def isGenerated (id : SegmentId) : Bool :=
  let cs := id.text.toList
  let isLowerHex (c : Char) := c.isDigit || ('a' ≤ c && c ≤ 'f')
  cs.length == 36 && cs.zipIdx.all fun (c, i) =>
    if [8, 13, 18, 23].contains i then c == '-'
    else if i == 14 then c == '4'
    else if i == 19 then ['8', '9', 'a', 'b'].contains c
    else isLowerHex c

end SerialFrame.SegmentId
