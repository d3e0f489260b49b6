import SerialFrame.Json.Magnitude

/-!
# Values that can be held in memory

A value that is only skipped may be anything. One that is kept until its meaning is known must have
text for strings, finite numbers, and at most 127 levels of arrays and objects.
-/

namespace SerialFrame.Json

/-- The deepest level of an array or object, the document itself being on level 1. -/
def deepestLevel : Nat := 127

mutual

def admissible (level : Nat) : Json → Bool
  | .null => true
  | .bool _ => true
  | .number n => !n.tooLarge
  | .string text => text.chars?.isSome
  | .array elements => decide (level ≤ deepestLevel) && admissibleElements (level + 1) elements
  | .object members => decide (level ≤ deepestLevel) && admissibleMembers (level + 1) members

def admissibleElements (level : Nat) : List Json → Bool
  | [] => true
  | element :: rest => admissible level element && admissibleElements level rest

def admissibleMembers (level : Nat) : List (Text × Json) → Bool
  | [] => true
  | (key, value) :: rest =>
    key.chars?.isSome && admissible level value && admissibleMembers level rest

end

end SerialFrame.Json
