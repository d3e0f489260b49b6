import SerialFrame.Frame.Expansion

/-!
# Traces

The making of a frame seen from outside: each leaf with the assembly in front of it and the one
behind it. What a leaf did is what differs between the two, so nothing here says how a leaf is
placed.
-/

namespace SerialFrame

def Leaf.text? : Leaf → Option (Origin × String)
  | .text origin content => some (origin, content)
  | _ => none

structure Step where
  leaf : Leaf
  before : Assembly
  after : Assembly
  deriving DecidableEq, Repr

/-- Where steps lead from `a`, if each of them starts where the one before it ended. -/
def Step.replay (a : Assembly) : List Step → Option Assembly
  | [] => some a
  | s :: rest => if s.before = a then replay s.after rest else none

structure TextEntry where
  origin : Origin
  content : String
  bytes : Bytes
  warnings : List Warning
  deriving DecidableEq, Repr

def Step.text? (s : Step) : Option TextEntry :=
  s.leaf.text?.map fun (origin, content) =>
    { origin, content
      bytes := s.after.buffer.drop s.before.buffer.length
      warnings := s.after.warnings.drop s.before.warnings.length }

namespace Compiler

variable (c : Compiler)

def trace : List Leaf → Assembly → List Step
  | [], _ => []
  | leaf :: leaves, a =>
    match c.put a leaf with
    | .ok b => ⟨leaf, a, b⟩ :: trace leaves b
    | .error _ => []

def steps (segments : List Segment) (tokens : TokenTable) (counters : CounterStore) : List Step :=
  c.trace (c.leaves tokens segments) { counters }

/-- The hex texts that are met while segments are compiled, in order; a text that is met several
times counts each time. -/
def texts (segments : List Segment) (tokens : TokenTable) (counters : CounterStore) :
    List TextEntry :=
  (c.steps segments tokens counters).filterMap Step.text?

end Compiler

end SerialFrame
