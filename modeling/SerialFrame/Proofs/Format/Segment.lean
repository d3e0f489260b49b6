import SerialFrame.Format.Segment
import SerialFrame.Proofs.Format.Fields
import SerialFrame.Proofs.Json.RoundTrip

/-!
# Segments and templates read back

A segment that is written reads back as it was, on any level of a document (`ofJson?_toJson`). A
template does too: no literals are joined when it is read, since none of its literals are adjacent.
-/

namespace SerialFrame

open Format

namespace Segment

variable {level : Nat}

theorem plain_toJson (s : Segment) : s.toJson.Plain := by
  refine .fields fun field hfield => ?_
  obtain ⟨id, kind⟩ := s
  cases kind with
  | literal | token =>
    simp only [toFields, List.mem_cons, List.not_mem_nil, or_false] at hfield
    rcases hfield with rfl | rfl | rfl <;> exact .text _

theorem without_toFields (s : Segment) : s.toFields.without ["id"] = s.toFields.tail := by
  obtain ⟨id, kind⟩ := s
  cases kind <;> simp [toFields, Fields.without]

theorem admissible_toFields (s : Segment) : ∀ field ∈ s.toFields, field.2.admissible level := by
  obtain ⟨id, kind⟩ := s
  cases kind <;> simp [toFields]

theorem kindOfFields?_toFields (s : Segment) : kindOfFields? s.toFields.tail = some s.kind := by
  obtain ⟨id, kind⟩ := s
  cases kind <;> simp [toFields, kindOfFields?, Fields.required]

theorem ofJson?_toJson (s : Segment) : ofJson? level s.toJson = some s := by
  have hid : s.toFields.valuesOf "id" = [.ofString s.id.text] := by
    obtain ⟨id, kind⟩ := s
    cases kind <;> simp [toFields]
  have hkept : Fields.admissible s.toFields.tail level := by
    rw [Fields.admissible, List.all_eq_true]
    exact fun field hfield => s.admissible_toFields field (List.mem_of_mem_tail hfield)
  simp only [ofJson?, toJson, Json.fields?_ofFields, Option.bind_eq_bind, Option.bind_some,
    Fields.required_eq hid, Json.string?_ofString, without_toFields, hkept, if_true,
    kindOfFields?_toFields]
  rfl

end Segment

namespace Template

variable {level : Nat}

theorem plain_toJson (t : Template) : t.toJson.Plain := by
  refine .array fun element helement => ?_
  obtain ⟨segment, -, rfl⟩ := List.mem_map.mp helement
  exact segment.plain_toJson

theorem admissible_toJson (t : Template) (h : level < Json.deepestLevel) :
    t.toJson.admissible level := by
  refine Json.admissible_array h.le fun element helement => ?_
  obtain ⟨segment, -, rfl⟩ := List.mem_map.mp helement
  exact Json.admissible_ofFields h segment.admissible_toFields

theorem mapM_ofJson? (segments : List Segment) :
    (segments.map Segment.toJson).mapM (Segment.ofJson? level) = some segments := by
  induction segments with
  | nil => rfl
  | cons segment segments ih =>
    rw [List.map_cons, List.mapM_cons, Segment.ofJson?_toJson, ih]
    rfl

theorem ofSegments_segments (t : Template) : ofSegments t.segments = t :=
  (mk.injEq ..).mpr t.separated.normalize_eq

theorem ofJson?_toJson (t : Template) : ofJson? level t.toJson = some t := by
  have helements : t.toJson.array? = some (t.segments.map Segment.toJson) := rfl
  rw [ofJson?, helements, Option.bind_eq_bind, Option.bind_some, mapM_ofJson?, Option.bind_eq_bind,
    Option.bind_some, ofSegments_segments]
  rfl

end Template

end SerialFrame
