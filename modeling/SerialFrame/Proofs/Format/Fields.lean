import Mathlib.Tactic
import SerialFrame.Format.Fields
import SerialFrame.Proofs.Json.Admissible

/-!
# Fields found by name

A field is found behind fields of other names, and a field that was left out is missing. The lemmas
are about `Fields.valuesOf`, on which both ways to read a field rest.
-/

namespace SerialFrame.Format

namespace Fields

variable {α : Type} {fields : Fields} {name : String} {value default : α} {read : Json → Option α}
  {j : Json}

@[simp]
theorem valuesOf_nil (name : String) : valuesOf [] name = [] := rfl

@[simp]
theorem valuesOf_cons (field : String × Json) (fields : Fields) (name : String) :
    valuesOf (field :: fields) name =
      if field.1 = name then field.2 :: valuesOf fields name else valuesOf fields name := by
  by_cases h : field.1 = name <;> simp [valuesOf, h]

@[simp]
theorem valuesOf_append (xs ys : Fields) (name : String) :
    valuesOf (xs ++ ys) name = xs.valuesOf name ++ ys.valuesOf name := by
  simp [valuesOf]

theorem without_eq_self {names : List String} (h : ∀ field ∈ fields, field.1 ∉ names) :
    fields.without names = fields :=
  List.filter_eq_self.mpr fun field hfield => by simp [h field hfield]

theorem without_append (xs ys : Fields) (names : List String) :
    without (xs ++ ys) names = xs.without names ++ ys.without names :=
  List.filter_append xs ys

theorem valuesOf_eq_nil (h : ∀ field ∈ fields, field.1 ≠ name) : fields.valuesOf name = [] := by
  have hnone : List.filter (fun field => field.1 == name) fields = [] :=
    List.filter_eq_nil_iff.mpr fun field hfield => by simp [h field hfield]
  rw [valuesOf, hnone, List.map_nil]

theorem required_eq (h : fields.valuesOf name = [j]) : fields.required name read = read j := by
  rw [required, h]

theorem optional_eq (h : fields.valuesOf name = [j]) :
    fields.optional name default read = read j := by
  rw [optional, h]

theorem optional_eq_default (h : fields.valuesOf name = []) :
    fields.optional name default read = some default := by
  rw [optional, h]

end Fields

@[simp]
theorem nullable_ofString {α : Type} (read : Json → Option α) (text : String) :
    nullable read (.ofString text) = (read (.ofString text)).map some := rfl

@[simp]
theorem named?_ofString {α : Type} (kept : Bool) (ofName? : String → Option α) (text : String) :
    named? kept ofName? (.ofString text) = ofName? text := by
  change (Json.ofString text).string? >>= ofName? = ofName? text
  rw [Json.string?_ofString, Option.bind_eq_bind, Option.bind_some]

@[simp]
theorem tag?_ofString (text : String) : tag? (.ofString text) = some (.name text) := by
  change (Json.Text.ofString text).toString?.map Tag.name = _
  rw [Json.Text.toString?_ofString, Option.map_some]

end SerialFrame.Format
