import SerialFrame.Bytes.Basic

/-!
# Byte order

Integers stand in a frame most significant byte first (`big`) or last (`little`). `encode` writes
one in a fixed number of bytes and `decode` reads it.
-/

namespace SerialFrame

inductive ByteOrder
  | big
  | little
  deriving DecidableEq, Repr, Inhabited

namespace ByteOrder

def name : ByteOrder → String
  | big => "big"
  | little => "little"

def ofName? : String → Option ByteOrder
  | "big" => some big
  | "little" => some little
  | _ => none

theorem ofName?_name (order : ByteOrder) : ofName? order.name = some order := by
  cases order <;> rfl

/-- The lowest `width` bytes of `n`, zeros in front if it is shorter. -/
def encode (order : ByteOrder) (n width : Nat) : Bytes :=
  match order with
  | big => (Bytes.littleEndian width n).reverse
  | little => Bytes.littleEndian width n

def decode (order : ByteOrder) (bytes : Bytes) : Nat :=
  match order with
  | big => bytes.value
  | little => bytes.littleValue

@[simp]
theorem length_encode (order : ByteOrder) (n width : Nat) :
    (order.encode n width).length = width := by
  cases order <;> simp [encode, Bytes.length_littleEndian]

end ByteOrder

end SerialFrame
