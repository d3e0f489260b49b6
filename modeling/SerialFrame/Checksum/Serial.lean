import SerialFrame.Bytes.Order
import SerialFrame.Checksum.Register

/-!
# Registers bit by bit

A checksum as a serial line would compute it: the bits of the data arrive one at a time, each is
added to the bit that the register shifts out, and the sum decides whether the polynomial is added.
Neither bytes nor tables play a part in this.
-/

namespace SerialFrame.Checksum.Register

variable {v w : Nat} (r : Register w)

/-- Bit `i` of a word, counted from the end at which the register shifts bits out. -/
def bit (x : BitVec v) (i : Nat) : Bool :=
  if r.lowFirst then x.getLsbD i else x.getMsbD i

def bits (x : BitVec v) : List Bool :=
  (List.range v).map (r.bit x)

def move (n : Nat) (x : BitVec w) : BitVec w :=
  if r.lowFirst then x >>> n else x <<< n

def clock (x : BitVec w) (arriving : Bool) : BitVec w :=
  if r.bit x 0 ^^ arriving then r.move 1 x ^^^ r.polynomial else r.move 1 x

def order : ByteOrder :=
  if r.lowFirst then .little else .big

def stream (data : Bytes) : List Bool :=
  data.flatMap fun b => r.bits b.toBitVec

def feed (x : BitVec w) (data : Bytes) : BitVec w :=
  (r.stream data).foldl r.clock x

def serial (data : Bytes) : BitVec w :=
  r.feed r.initial data ^^^ r.final

/-- The checksum of data with their own checksum behind them, sent in the order of the register. -/
def residue : BitVec w :=
  (r.bits r.final).foldl r.clock 0#w ^^^ r.final

/-- The number of the table entry for a register and a byte, worked out on words as wide as the
register. -/
def slot (x : BitVec w) (b : UInt8) : Nat :=
  if r.lowFirst then ((x ^^^ b.toBitVec.setWidth w) &&& 0xFF#w).toNat
  else ((x >>> (w - 8)) ^^^ b.toBitVec.setWidth w).toNat

end SerialFrame.Checksum.Register
