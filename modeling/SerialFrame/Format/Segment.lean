import SerialFrame.Format.Fields
import SerialFrame.Json.Admissible
import SerialFrame.Template

/-!
# Segments in files

A segment is an object with its `id`, its `kind`, and the `content` of a literal or the `tokenId` of
a reference. A template is an array of segments; adjacent literals are joined when it is read.
-/

namespace SerialFrame

open Format

/-- The fields besides those read at once must be kept until the kind is known. -/
def Format.Fields.admissible (fields : Fields) (level : Nat) : Bool :=
  List.all fields fun field => field.2.admissible (level + 1)

namespace Segment

def toFields (s : Segment) : Fields :=
  ("id", .ofString s.id.text) ::
    match s.kind with
    | .literal content => [("kind", .ofString "literal"), ("content", .ofString content)]
    | .token id => [("kind", .ofString "token"), ("tokenId", .ofString id.text)]

def toJson (s : Segment) : Json :=
  .ofFields s.toFields

def kindOfFields? (fields : Fields) : Option SegmentKind := do
  match ← fields.required "kind" tag? with
  | .name "literal" | .index 0 => .literal <$> fields.required "content" Json.string?
  | .name "token" | .index 1 => (.token ⟨·⟩) <$> fields.required "tokenId" Json.string?
  | _ => none

def ofJson? (level : Nat) (j : Json) : Option Segment := do
  let fields : Fields ← j.fields?
  let id ← fields.required "id" Json.string?
  let others := fields.without ["id"]
  if others.admissible level then
    return ⟨⟨id⟩, ← kindOfFields? others⟩
  else none

end Segment

namespace Template

def toJson (t : Template) : Json :=
  .array (t.segments.map Segment.toJson)

def ofJson? (level : Nat) (j : Json) : Option Template := do
  return ofSegments (← (← j.array?).mapM (Segment.ofJson? (level + 1)))

end Template

end SerialFrame
