import SerialFrame.Frame.Compiler

/-!
# Projects

A template together with the tokens that it refers to.
-/

namespace SerialFrame

structure Project where
  template : Template := .empty
  tokens : TokenTable := .empty
  deriving DecidableEq

namespace Project

instance : Inhabited Project := ⟨{}⟩

def compile (p : Project) (c : Compiler) (counters : CounterStore) : Except FrameError Frame :=
  c.compile p.template.segments p.tokens counters

end Project

end SerialFrame
