import SerialFrame.Counter.Store
import SerialFrame.Mode

/-!
# Compile options
-/

namespace SerialFrame

structure Options where
  mode : Mode := .hex
  strict : Bool := false
  /-- How many containers may be open at once. -/
  maxContainerDepth : Nat := 16
  maxCounterWidth : Nat := CounterStore.widestByDefault
  deriving DecidableEq, Repr, Inhabited

end SerialFrame
