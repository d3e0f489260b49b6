import SerialFrame.Json.Parser

/-!
# Layouts of documents

A document may have blanks between its parts. The compact layout has none, on one line; the pretty
one has a line for each element, with two spaces for each level.
-/

namespace SerialFrame.Json

def Blanks (cs : List Char) : Prop :=
  ∀ c ∈ cs, isSpace c

structure Layout where
  /-- What stands in front of an element on the given level, and in front of a closing bracket. -/
  line : Nat → List Char
  gap : List Char
  line_blanks (level : Nat) : Blanks (line level)
  gap_blanks : Blanks gap

namespace Layout

def compact : Layout where
  line _ := []
  gap := []
  line_blanks _ := fun _ h => absurd h List.not_mem_nil
  gap_blanks := fun _ h => absurd h List.not_mem_nil

def pretty : Layout where
  line level := '\n' :: List.replicate (2 * level) ' '
  gap := [' ']
  line_blanks level := by
    intro c h
    rcases List.mem_cons.mp h with rfl | h
    · rfl
    · rw [List.eq_of_mem_replicate h]
      rfl
  gap_blanks := by
    intro c h
    rw [List.mem_singleton.mp h]
    rfl

end Layout

end SerialFrame.Json
