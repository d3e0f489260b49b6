import SerialFrame.Random.Generator

/-!
# Strategies for samples

A strategy draws values at random and knows the simplest of them, in which a failing sample would
be shrunk: the first of several choices, the number nearest to zero, the empty list, no value.
-/

namespace SerialFrame

structure Strategy (α : Type) where
  draw : Random → α × Random
  /-- The value that shrinking ends in. -/
  simplest : α

namespace Strategy

instance : Monad Strategy where
  pure a := ⟨fun r => (a, r), a⟩
  bind s f :=
    { draw := fun r =>
        let (a, r) := s.draw r
        (f a).draw r
      simplest := (f s.simplest).simplest }

def below (n : Nat) : Strategy Nat :=
  ⟨fun r => r.below n, 0⟩

/-- An integer of a range that reaches from a negative number to a positive one. -/
def between (low high : Int) : Strategy Int :=
  { draw := fun r =>
      let (n, r) := r.below (high - low + 1).toNat
      (low + n, r)
    simplest := 0 }

def select {α : Type} (first : α) (others : List α) : Strategy α :=
  { draw := fun r =>
      let (n, r) := r.below (others.length + 1)
      ((first :: others).getD n first, r)
    simplest := first }

def oneOf {α : Type} (first : Strategy α) (others : List (Strategy α)) : Strategy α := do
  let s ← select first others
  s

def optional {α : Type} (s : Strategy α) : Strategy (Option α) := do
  if ← select false [true] then
    return some (← s)
  else
    return none

def replicate {α : Type} (s : Strategy α) : Nat → Strategy (List α)
  | 0 => pure []
  | n + 1 => do
    let a ← s
    return a :: (← replicate s n)

def listBelow {α : Type} (n : Nat) (s : Strategy α) : Strategy (List α) := do
  replicate s (← below n)

def samples {α : Type} (s : Strategy α) (n : Nat) (r : Random) : List α :=
  ((s.replicate n).draw r).1

end Strategy

end SerialFrame
