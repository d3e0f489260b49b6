import SerialFrame.Format.Token
import SerialFrame.Proofs.Format.Segment
import SerialFrame.Proofs.Token.Table

/-!
# Tokens and tables read back

A token that is written reads back as it was, whatever its kind (`ofJson?_toJson`): no field of a
kind is called like one of the token itself, and each field that was left out has the value that it
then stands for. A table reads back if its tokens are found by their own ids.
-/

namespace SerialFrame

open Format

/-! ### Kinds -/

namespace ChecksumConfig

theorem ofFields?_toFields (kept : Bool) (tag : Json) (config : ChecksumConfig) :
    ofFields? kept (("type", tag) :: config.toFields) = some config := by
  obtain ⟨algorithm, startIndex, endIndex, byteOrder⟩ := config
  cases byteOrder <;>
    simp [ofFields?, toFields, Fields.required, Fields.optional, ByteOrder.ofName?_name]

end ChecksumConfig

namespace TimestampConfig

theorem ofFields?_toFields (kept : Bool) (tag : Json) (config : TimestampConfig) :
    ofFields? kept (("type", tag) :: config.toFields) = some config := by
  simp [ofFields?, toFields, Fields.optional, ByteOrder.ofName?_name, TimestampFormat.ofName?_name]

end TimestampConfig

namespace CounterConfig

theorem ofFields?_toFields (tag : Json) (config : CounterConfig) :
    ofFields? (("type", tag) :: config.toFields) = some config := by
  obtain ⟨bytes, currentValue, defaultValue, step⟩ := config
  cases currentValue <;> simp [ofFields?, toFields, Fields.required, Fields.optional]

end CounterConfig

namespace TokenKind

variable {level : Nat}

/-- What the fields of a kind hold: texts, integers of 64 bits and templates. -/
inductive FieldValue : Json → Prop
  | text (text : String) : FieldValue (.ofString text)
  | int {n : Int} (h : n.natAbs < UInt64.size) : FieldValue (.ofInt n)
  | template (t : Template) : FieldValue t.toJson

namespace FieldValue

variable {j : Json}

theorem uint64 (n : UInt64) : FieldValue (.ofNat n.toNat) := .int n.toNat_lt_size

theorem int64 (n : Int64) : FieldValue (.ofInt n.toInt) := by
  have hlow := n.le_toInt
  have hhigh := n.toInt_lt
  refine .int ?_
  unfold UInt64.size
  omega

theorem plain (h : FieldValue j) : j.Plain := by
  cases h with
  | text text => exact .text text
  | int => exact .int _
  | template t => exact t.plain_toJson

theorem admissible (h : FieldValue j) (hlevel : level < Json.deepestLevel) : j.admissible level := by
  cases h with
  | text text => exact Json.admissible_ofString text level
  | int hn => exact Json.admissible_ofInt hn level
  | template t => exact t.admissible_toJson hlevel

end FieldValue

theorem toFields_eq (kind : TokenKind) :
    kind.toFields = ("type", .ofString kind.name) :: kind.toFields.tail := rfl

/-- No field of a kind is called like its tag or like a field of the token itself. -/
theorem mem_tail_toFields (kind : TokenKind) :
    ∀ field ∈ kind.toFields.tail, field.1 ∉ ["id", "name", "type"] ∧ FieldValue field.2 := by
  cases kind with
  | checksum config =>
    obtain ⟨algorithm, startIndex, endIndex, byteOrder⟩ := config
    cases byteOrder <;>
      simp [toFields, ChecksumConfig.toFields, FieldValue.text, FieldValue.uint64, FieldValue.int64]
  | counter config =>
    obtain ⟨bytes, currentValue, defaultValue, step⟩ := config
    cases currentValue <;>
      simp [toFields, CounterConfig.toFields, FieldValue.text, FieldValue.uint64]
  | flag | timestamp | container | unknown =>
    simp [toFields, flagFields, TimestampConfig.toFields, FieldValue.text, FieldValue.template]

theorem fieldValue_of_mem_toFields {kind : TokenKind} {field : String × Json}
    (h : field ∈ kind.toFields) : FieldValue field.2 := by
  rw [toFields_eq] at h
  rcases List.mem_cons.mp h with rfl | h
  · exact .text _
  · exact (kind.mem_tail_toFields field h).2

theorem name_notMem_of_mem_toFields {kind : TokenKind} {field : String × Json}
    (h : field ∈ kind.toFields) : field.1 ∉ ["id", "name"] := by
  rw [toFields_eq] at h
  rcases List.mem_cons.mp h with rfl | h
  · exact (by decide : "type" ∉ ["id", "name"])
  · exact fun hname => (kind.mem_tail_toFields field h).1 (List.mem_append_left ["type"] hname)

theorem required_type (kind : TokenKind) :
    kind.toFields.required "type" tag? = some (.name kind.name) := by
  have hrest : Fields.valuesOf kind.toFields.tail "type" = [] :=
    Fields.valuesOf_eq_nil fun field hfield heq =>
      (kind.mem_tail_toFields field hfield).1 (by simp [heq])
  have htype : kind.toFields.valuesOf "type" = [.ofString kind.name] := by
    rw [toFields_eq, Fields.valuesOf_cons, hrest]
    rfl
  rw [Fields.required_eq htype, tag?_ofString]

theorem ofFields?_toFields (kind : TokenKind) : ofFields? level kind.toFields = some kind := by
  unfold ofFields?
  rw [required_type, Option.bind_eq_bind, Option.bind_some]
  cases kind with
  | checksum config =>
    show checksum <$> ChecksumConfig.ofFields? true _ = _
    rw [toFields, ChecksumConfig.ofFields?_toFields]
    rfl
  | flag hex =>
    show flag <$> flagOfFields? _ = _
    simp [flagOfFields?, toFields, flagFields, Fields.required]
  | timestamp config =>
    show timestamp <$> TimestampConfig.ofFields? true _ = _
    rw [toFields, TimestampConfig.ofFields?_toFields]
    rfl
  | counter config =>
    show counter <$> CounterConfig.ofFields? _ = _
    rw [toFields, CounterConfig.ofFields?_toFields]
    rfl
  | container children =>
    show container <$> Fields.optional _ "segments" .empty (Template.ofJson? (level + 1)) = _
    simp [toFields, Fields.optional, Template.ofJson?_toJson]
  | unknown => rfl

end TokenKind

/-! ### Tokens -/

namespace Token

variable {level : Nat}

theorem valuesOf_textField_self (name text : String) :
    (textField name text).valuesOf name = if text = "" then [] else [.ofString text] := by
  unfold textField
  split <;> simp

theorem valuesOf_textField_of_ne {name other : String} (h : other ≠ name) (text : String) :
    (textField other text).valuesOf name = [] := by
  unfold textField
  split <;> simp [h]

theorem optional_textField {fields : Fields} {name text : String}
    (h : fields.valuesOf name = (textField name text).valuesOf name) :
    fields.optional name "" Json.string? = some text := by
  rw [valuesOf_textField_self] at h
  by_cases htext : text = ""
  · rw [if_pos htext] at h
    rw [Fields.optional_eq_default h, htext]
  · rw [if_neg htext] at h
    rw [Fields.optional_eq h, Json.string?_ofString]

theorem plain_toJson (t : Token) : t.toJson.Plain := by
  refine .fields fun field hfield => ?_
  have htext (name text : String) : ∀ field ∈ textField name text, field.2.Plain := by
    unfold textField
    split
    · exact fun _ h => absurd h List.not_mem_nil
    · exact fun _ h => List.mem_singleton.mp h ▸ .text text
  rcases List.mem_append.mp hfield with hfield | hfield
  · rcases List.mem_append.mp hfield with hfield | hfield
    · exact htext _ _ field hfield
    · exact htext _ _ field hfield
  · exact (TokenKind.fieldValue_of_mem_toFields hfield).plain

theorem without_toFields (t : Token) : t.toFields.without ["id", "name"] = t.kind.toFields := by
  have htext (name text : String) (hname : name ∈ ["id", "name"]) :
      (textField name text).without ["id", "name"] = [] := by
    unfold textField
    split
    · rfl
    · exact List.filter_cons_of_neg (by simp [List.contains_eq_mem, hname])
  rw [toFields, Fields.without_append, Fields.without_append, htext _ _ (by decide),
    htext _ _ (by decide),
    Fields.without_eq_self fun field hfield => TokenKind.name_notMem_of_mem_toFields hfield]
  rfl

theorem ofJson?_toJson (t : Token) (h : level + 1 < Json.deepestLevel) :
    ofJson? level t.toJson = some t := by
  have hkind (name : String) (hname : name ∈ ["id", "name"]) : t.kind.toFields.valuesOf name = [] :=
    Fields.valuesOf_eq_nil fun field hfield heq =>
      TokenKind.name_notMem_of_mem_toFields hfield (heq ▸ hname)
  have hid : t.toFields.optional "id" "" Json.string? = some t.id.text := by
    refine optional_textField ?_
    simp only [toFields, Fields.valuesOf_append, valuesOf_textField_of_ne (by decide : "name" ≠ "id"),
      hkind "id" (by decide), List.append_nil]
  have hname : t.toFields.optional "name" "" Json.string? = some t.name := by
    refine optional_textField ?_
    simp only [toFields, Fields.valuesOf_append, valuesOf_textField_of_ne (by decide : "id" ≠ "name"),
      hkind "name" (by decide), List.append_nil, List.nil_append]
  have hkept : Fields.admissible t.kind.toFields level := by
    rw [Fields.admissible, List.all_eq_true]
    exact fun field hfield => (TokenKind.fieldValue_of_mem_toFields hfield).admissible h
  simp only [ofJson?, toJson, Json.fields?_ofFields, Option.bind_eq_bind, Option.bind_some, hid, hname,
    without_toFields, hkept, if_true, TokenKind.ofFields?_toFields]
  rfl

end Token

/-! ### Tables -/

namespace TokenTable

variable {level : Nat}

theorem plain_toJson (t : TokenTable) : t.toJson.Plain := by
  refine .fields fun field hfield => ?_
  obtain ⟨entry, -, rfl⟩ := List.mem_map.mp hfield
  exact entry.2.plain_toJson

theorem mapM_ofJson? (entries : List (TokenId × Token)) (h : level + 1 < Json.deepestLevel) :
    ((entries.map fun entry => (entry.1.text, entry.2.toJson)).mapM fun field => do
      return ((⟨field.1⟩ : TokenId), ← Token.ofJson? level field.2)) = some entries := by
  induction entries with
  | nil => rfl
  | cons entry entries ih =>
    rw [List.map_cons, List.mapM_cons, ih, Token.ofJson?_toJson entry.2 h]
    rfl

/-- Tokens that are found by their own ids keep them when they are read. -/
theorem ofEntries_entries {t : TokenTable} (hkeyed : t.Keyed) : ofEntries t.byId.entries = t := by
  obtain ⟨⟨entries, sorted⟩⟩ := t
  have hsame : entries.map (fun entry => (entry.1, { entry.2 with id := entry.1 })) = entries := by
    conv_rhs => rw [← List.map_id entries]
    refine List.map_congr_left fun entry hentry => ?_
    exact Prod.ext rfl (by simp [← hkeyed entry hentry])
  have hlist := IdMap.ofList_entries (⟨entries, sorted⟩ : IdMap Token)
  simp only [ofEntries, hlist, IdMap.mapValues, hsame]

theorem ofJson?_toJson (t : TokenTable) (hkeyed : t.Keyed) (h : level + 2 < Json.deepestLevel) :
    ofJson? level t.toJson = some t := by
  rw [ofJson?, toJson, Json.fields?_ofFields, Option.bind_eq_bind, Option.bind_some, mapM_ofJson? _ h,
    Option.bind_eq_bind, Option.bind_some, ofEntries_entries hkeyed]
  rfl

end TokenTable

end SerialFrame
