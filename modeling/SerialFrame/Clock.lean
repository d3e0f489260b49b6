/-!
# The time of a compile

A compile happens at one instant, given in milliseconds since 1970.
-/

namespace SerialFrame

/-- An instant, in milliseconds since 1970. -/
structure Clock where
  millis : UInt64
  deriving DecidableEq, Repr, Inhabited

namespace Clock

def ofSeconds (seconds : UInt64) : Clock :=
  ⟨.ofNat (min (seconds.toNat * 1000) (UInt64.size - 1))⟩

def seconds (c : Clock) : Nat :=
  c.millis.toNat / 1000

end Clock

end SerialFrame
