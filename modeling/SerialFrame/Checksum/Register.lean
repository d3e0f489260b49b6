import SerialFrame.Bytes.Basic

/-!
# Cyclic redundancy checks

A CRC is what a shift register holds after all data has gone through it. `Register.run` moves the
data through one bit at a time and is the definition; `Register.runTable` moves one byte at a time,
with the effect of eight shifts on each of the 256 bytes looked up in a table.
-/

namespace SerialFrame.Checksum

structure Register (w : Nat) where
  /-- What is added whenever a one is shifted out. -/
  polynomial : BitVec w
  initial : BitVec w
  final : BitVec w
  /-- Bits are shifted out at the low end, and data enters there. -/
  lowFirst : Bool

namespace Register

variable {w : Nat} (r : Register w)

def shiftBit (x : BitVec w) : BitVec w :=
  if r.lowFirst then
    if x.getLsbD 0 then (x >>> 1) ^^^ r.polynomial else x >>> 1
  else
    if x.msb then (x <<< 1) ^^^ r.polynomial else x <<< 1

def shift : Nat → BitVec w → BitVec w
  | 0, x => x
  | n + 1, x => shift n (r.shiftBit x)

def place (b : BitVec 8) : BitVec w :=
  if r.lowFirst then b.setWidth w else b.setWidth w <<< (w - 8)

def absorb (x : BitVec w) (b : UInt8) : BitVec w :=
  r.shift 8 (x ^^^ r.place b.toBitVec)

def run (data : Bytes) : BitVec w :=
  data.foldl r.absorb r.initial ^^^ r.final

def table : Vector (BitVec w) 256 :=
  Vector.ofFn fun i => r.shift 8 (r.place (BitVec.ofFin i))

/-- The byte of the register that the next eight shifts move out, with the data added. -/
def index (x : BitVec w) (b : UInt8) : BitVec 8 :=
  if r.lowFirst then x.setWidth 8 ^^^ b.toBitVec else (x >>> (w - 8)).setWidth 8 ^^^ b.toBitVec

def absorbTable (t : Vector (BitVec w) 256) (x : BitVec w) (b : UInt8) : BitVec w :=
  let i := r.index x b
  (if r.lowFirst then x >>> 8 else x <<< 8) ^^^ t.get ⟨i.toNat, i.isLt⟩

def runTable (t : Vector (BitVec w) 256) (data : Bytes) : BitVec w :=
  data.foldl (r.absorbTable t) r.initial ^^^ r.final

end Register

end SerialFrame.Checksum
