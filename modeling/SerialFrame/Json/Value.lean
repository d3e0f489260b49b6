/-!
# JSON documents

A document is kept as it is written: numbers as their digits, objects as their members in order,
repeated keys included, and strings as characters and unpaired surrogates. What a member means is
decided by the one who reads it.
-/

namespace SerialFrame

namespace Json

inductive StringItem
  | char (c : Char)
  /-- Half of a surrogate pair whose other half is missing; only an escape can write it. -/
  | surrogate (unit : Nat)
  deriving DecidableEq, Repr

abbrev Text := List StringItem

def Text.ofString (text : String) : Text :=
  text.toList.map .char

def Text.chars? : Text → Option (List Char)
  | [] => some []
  | .char c :: rest => (chars? rest).map (c :: ·)
  | .surrogate _ :: _ => none

def Text.toString? (text : Text) : Option String :=
  text.chars?.map String.ofList

theorem Text.chars?_map_char (cs : List Char) : Text.chars? (cs.map .char) = some cs := by
  induction cs with
  | nil => rfl
  | cons c cs ih => rw [List.map_cons, chars?, ih, Option.map_some]

@[simp]
theorem Text.toString?_ofString (text : String) : (Text.ofString text).toString? = some text := by
  rw [toString?, ofString, chars?_map_char, Option.map_some, String.ofList_toList]

structure Numeral where
  negative : Bool := false
  whole : List Char
  fraction : Option (List Char) := none
  exponent : Option (Bool × List Char) := none
  deriving DecidableEq, Repr

end Json

inductive Json
  | null
  | bool (value : Bool)
  | number (value : Json.Numeral)
  | string (value : Json.Text)
  | array (elements : List Json)
  | object (members : List (Json.Text × Json))
  deriving Repr, Inhabited

namespace Json

def digitsValue (digits : List Char) : Nat :=
  digits.foldl (fun n c => 10 * n + (c.toNat - 48)) 0

def Numeral.ofInt (n : Int) : Numeral :=
  { negative := decide (n < 0), whole := Nat.toDigits 10 n.natAbs }

/-- The integer that a number without point and exponent writes. Zero with a sign is no integer. -/
def Numeral.int? (n : Numeral) : Option Int :=
  match n.fraction, n.exponent with
  | none, none =>
    let value := digitsValue n.whole
    if n.negative then (if value = 0 then none else some (-value)) else some value
  | _, _ => none

def ofString (text : String) : Json :=
  .string (.ofString text)

def ofInt (n : Int) : Json :=
  .number (.ofInt n)

def ofNat (n : Nat) : Json :=
  ofInt n

def ofFields (fields : List (String × Json)) : Json :=
  .object (fields.map fun field => (.ofString field.1, field.2))

/-- A document without unpaired surrogates whose numbers are integers. -/
inductive Plain : Json → Prop
  | null : Plain .null
  | bool (value : Bool) : Plain (.bool value)
  | int (n : Int) : Plain (.ofInt n)
  | text (text : String) : Plain (.ofString text)
  | array {elements : List Json} (plain : ∀ element ∈ elements, Plain element) :
    Plain (.array elements)
  | fields {fields : List (String × Json)} (plain : ∀ field ∈ fields, Plain field.2) :
    Plain (.ofFields fields)

def string? : Json → Option String
  | .string value => value.toString?
  | _ => none

@[simp]
theorem string?_ofString (text : String) : (ofString text).string? = some text :=
  Text.toString?_ofString text

def int? : Json → Option Int
  | .number value => value.int?
  | _ => none

def uint64? (j : Json) : Option UInt64 := do
  let n ← j.int?
  if 0 ≤ n ∧ n < UInt64.size then some (.ofNat n.toNat) else none

def int64? (j : Json) : Option Int64 := do
  let n ← j.int?
  if Int64.minValue.toInt ≤ n ∧ n ≤ Int64.maxValue.toInt then some (.ofInt n) else none

def array? : Json → Option (List Json)
  | .array elements => some elements
  | _ => none

def fields? : Json → Option (List (String × Json))
  | .object members => members.mapM fun member => do return (← member.1.toString?, member.2)
  | _ => none

@[simp]
theorem fields?_ofFields (fields : List (String × Json)) :
    (ofFields fields).fields? = some fields := by
  rw [ofFields, fields?]
  induction fields with
  | nil => rfl
  | cons field fields ih =>
    rw [List.map_cons, List.mapM_cons, ih, Text.toString?_ofString]
    rfl

end Json

end SerialFrame
