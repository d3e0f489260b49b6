import SerialFrame.Frame.Compiler

/-!
# Walks step by step

The walk over a template as a machine, without recursion and without a bound on its depth. What is
left to do is a list: segments to be put into the frame, and behind the children of a container that
it is to be closed. After an error nothing more is put into the frame, but what is open is closed.
-/

namespace SerialFrame

inductive Task
  | place (segment : Segment)
  /-- The container that was opened last is closed. -/
  | close
  deriving DecidableEq, Repr

structure Walk where
  assembly : Assembly
  todo : List Task
  failure : Option FrameError := none
  deriving DecidableEq, Repr

namespace Walk

def start (segments : List Segment) (counters : CounterStore) : Walk :=
  { assembly := { counters }, todo := segments.map .place }

def result (c : Compiler) (w : Walk) : Except FrameError Frame :=
  match w.failure with
  | none => .ok (c.finish w.assembly)
  | some e => .error e

end Walk

namespace Compiler

variable (c : Compiler) (tokens : TokenTable)

/-- The container that a segment opens, with its children: the one that it refers to, unless that is
open already or too many are. -/
def opened? (expanding : List TokenId) (segment : Segment) : Option (TokenId × Template) := do
  let t ← segment.tokenId? >>= tokens.get?
  let children ← t.children?
  if t.id ∈ expanding ∨ c.options.maxContainerDepth ≤ expanding.length then none
  else some (t.id, children)

def next (w : Walk) : Walk :=
  match w.todo, w.failure with
  | [], _ => w
  | .close :: rest, _ =>
    { w with
      assembly := { w.assembly with expanding := w.assembly.expanding.dropLast }
      todo := rest }
  | .place _ :: rest, some _ => { w with todo := rest }
  | .place segment :: rest, none =>
    match c.opened? tokens w.assembly.expanding segment with
    | some (id, children) =>
      { w with
        assembly := { w.assembly with expanding := w.assembly.expanding ++ [id] }
        todo := children.segments.map .place ++ .close :: rest }
    | none =>
      match c.place tokens (fun _ => pure ()) segment w.assembly with
      | .ok _ a => { w with assembly := a, todo := rest }
      | .error e a => { assembly := a, todo := rest, failure := some e }

end Compiler

end SerialFrame
