import SerialFrame.Hex.Digit

/-!
# Counter values

A counter is a byte string of fixed length, most significant byte first. It is read from hex text,
fitted to another length, and advanced modulo `256 ^ length`.
-/

namespace SerialFrame.Counter

/-- The lowest `width` items of a list whose last item is the lowest, `zero` standing in front if
the list is shorter. -/
def fit {α : Type} (zero : α) (items : List α) (width : Nat) : List α :=
  List.replicate (width - items.length) zero ++ items.drop (items.length - width)

@[simp]
theorem length_fit {α : Type} (zero : α) (items : List α) (width : Nat) :
    (fit zero items width).length = width := by
  simp [fit]
  omega

def fitWidth (value : Bytes) (width : Nat) : Bytes :=
  fit 0 value width

/-- Reads the digits of `text` as a counter of `width` bytes, ignoring all other characters; high
digits are cut off or zeros put in front. A width whose digits cannot be counted in 64 bits gives
no bytes. -/
def ofText (text : String) (width : Nat) : Bytes :=
  if 2 * width < UInt64.size then
    Hex.pack (fit (.ofNat 0) (text.toList.filterMap Hex.nibble?) (2 * width))
  else []

def addCarry (value : Bytes) (carry : Nat) : Bytes × Nat :=
  value.foldr
    (fun b (sum, carry) => (UInt8.ofNat (b.toNat + carry) :: sum, (b.toNat + carry) / 256))
    ([], carry)

def advance (value : Bytes) (step : UInt64) : Bytes :=
  (addCarry value step.toNat).1

end SerialFrame.Counter
