/-!
# A source of random numbers

A small generator with 64 bits of state. It serves for ids that must not collide and for samples in
tests, not for secrets.
-/

namespace SerialFrame

structure Random where
  state : UInt64
  deriving DecidableEq, Repr, Inhabited

namespace Random

/-- The state is advanced by an odd constant near the golden ratio of the range. -/
def increment : UInt64 := 0x9E3779B97F4A7C15

def mix (z : UInt64) : UInt64 :=
  let z := (z ^^^ (z >>> 30)) * 0xBF58476D1CE4E5B9
  let z := (z ^^^ (z >>> 27)) * 0x94D049BB133111EB
  z ^^^ (z >>> 31)

def next (r : Random) : UInt64 × Random :=
  let state := r.state + increment
  (mix state, ⟨state⟩)

def below (r : Random) (n : Nat) : Nat × Random :=
  let (x, r) := r.next
  (x.toNat % n, r)

end Random

end SerialFrame
