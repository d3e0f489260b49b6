import SerialFrame.Json.Value

/-!
# Fields of a record

A record is an object whose fields are found by name, each at most once; other members are ignored.
A record may also be an array of its fields in order, of which the last may be missing.
-/

namespace SerialFrame.Format

abbrev Fields := List (String × Json)

/-- The fields of a record written as an object, or as an array in the order of `names`. -/
def recordFields? (names : List String) : Json → Option Fields
  | .array elements =>
    if elements.length ≤ names.length then some (names.zip elements) else none
  | j => j.fields?

namespace Fields

def valuesOf (fields : Fields) (name : String) : List Json :=
  (fields.filter fun field => field.1 == name).map (·.2)

def required {α : Type} (fields : Fields) (name : String) (read : Json → Option α) : Option α :=
  match fields.valuesOf name with
  | [value] => read value
  | _ => none

def optional {α : Type} (fields : Fields) (name : String) (default : α) (read : Json → Option α) :
    Option α :=
  match fields.valuesOf name with
  | [] => some default
  | [value] => read value
  | _ => none

def without (fields : Fields) (names : List String) : Fields :=
  fields.filter fun field => !names.contains field.1

end Fields

def nullable {α : Type} (read : Json → Option α) : Json → Option (Option α)
  | .null => some none
  | j => (read j).map some

/-- Reads one of a set of names: the name itself, or an object with that one key and `null`. In a
value that was kept in memory first, an empty object serves for `null`. -/
def named? {α : Type} (kept : Bool) (ofName? : String → Option α) : Json → Option α
  | .object [(key, value)] => do
    let name ← key.toString?
    match value with
    | .null => ofName? name
    | .object [] => if kept then ofName? name else none
    | _ => none
  | j => j.string? >>= ofName?

inductive Tag
  | name (text : String)
  | index (n : Nat)
  deriving DecidableEq, Repr

def tag? : Json → Option Tag
  | .string text => text.toString?.map .name
  | j => j.uint64?.map fun n => .index n.toNat

end SerialFrame.Format
