import SerialFrame.Frame.Expansion

/-!
# Sessions

Frames made one after another from the same tokens, each from the counters that the last one left.
A request for which no frame can be made leaves everything as it was. The session also remembers
what its frames came to and what the counters in them sent.
-/

namespace SerialFrame

structure Emission where
  counter : TokenId
  bytes : Bytes
  deriving DecidableEq, Repr

def Leaf.counter? : Leaf → Option TokenId
  | .counter token _ => some token
  | _ => none

namespace Compiler

variable (c : Compiler)

/-- What a counter sent when it was placed in `before`, which made `after`: all that is new at the
end, if there is no new warning. -/
def emission (leaf : Leaf) (before after : Assembly) : List Emission :=
  match leaf.counter? with
  | some id =>
    if after.warnings.length = before.warnings.length then
      [⟨id, after.buffer.drop before.buffer.length⟩]
    else []
  | none => []

def emissions : List Leaf → Assembly → List Emission
  | [], _ => []
  | leaf :: leaves, a =>
    match c.placeLeaf leaf a with
    | .ok _ b => emission leaf a b ++ emissions leaves b
    | .error _ _ => []

end Compiler

structure Request where
  compiler : Compiler := {}
  segments : List Segment

structure Session where
  counters : CounterStore
  leaves : List Leaf := []
  emissions : List Emission := []

namespace Session

/-- The session after more leaves, which sent `emissions` and left `counters`. -/
def extend (s : Session) (counters : CounterStore) (leaves : List Leaf)
    (emissions : List Emission) : Session :=
  { counters
    leaves := s.leaves ++ leaves
    emissions := s.emissions ++ emissions }

def send (tokens : TokenTable) (s : Session) (r : Request) : Session :=
  match r.compiler.compile r.segments tokens s.counters with
  | .ok frame =>
    let leaves := r.compiler.leaves tokens r.segments
    s.extend frame.counters leaves (r.compiler.emissions leaves { counters := s.counters })
  | .error _ => s

def run (tokens : TokenTable) (counters : CounterStore) (requests : List Request) : Session :=
  requests.foldl (send tokens) { counters }

/-- How often a counter was referred to in the frames so far, inside containers too. -/
def references (s : Session) (id : TokenId) : Nat :=
  s.leaves.countP fun leaf => leaf.counter? = some id

def values (s : Session) (id : TokenId) : List Bytes :=
  (s.emissions.filter fun e => e.counter = id).map (·.bytes)

end Session

end SerialFrame
