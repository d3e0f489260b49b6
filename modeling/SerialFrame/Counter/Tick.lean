import SerialFrame.Counter.Store

/-!
# Sending a counter

A counter that is sent shows its present value and is then advanced by its step.
-/

namespace SerialFrame.Counter

structure Tick where
  emitted : Bytes
  next : Bytes
  deriving DecidableEq, Repr

/-- The value that a counter has now: the stored one in its width, or else the seed. -/
def current (id : TokenId) (config : CounterConfig) (store : CounterStore) : Bytes :=
  match store.get? id with
  | some value => fitWidth value config.bytes.toNat
  | none => ofText config.seed config.bytes.toNat

def tick? (id : TokenId) (config : CounterConfig) (store : CounterStore) : Option Tick :=
  if config.bytes = 0 then none
  else
    let value := current id config store
    some ⟨value, advance value config.step⟩

end SerialFrame.Counter
