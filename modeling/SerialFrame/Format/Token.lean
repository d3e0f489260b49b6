import SerialFrame.Format.Segment
import SerialFrame.Token.Table

/-!
# Tokens in files

A token is an object with its `id` and `name`, left out if empty, its `type`, and the fields of that
type. A type that is not known is read as the unknown kind, whatever its fields. A table is an
object from ids to tokens; the key is the id, even if the token says otherwise.
-/

namespace SerialFrame

open Format

namespace ChecksumConfig

def fieldNames : List String := ["algorithm", "startIndex", "endIndex", "byteOrder"]

def toFields (config : ChecksumConfig) : Fields :=
  [("algorithm", .ofString config.algorithm), ("startIndex", .ofNat config.startIndex.toNat),
    ("endIndex", .ofInt config.endIndex.toInt)] ++
    match config.byteOrder with
    | some order => [("byteOrder", .ofString order.name)]
    | none => []

/-- Reads the fields; `kept` if they were kept in memory first. -/
def ofFields? (kept : Bool) (fields : Fields) : Option ChecksumConfig := do
  return {
    algorithm := ← fields.required "algorithm" Json.string?
    startIndex := ← fields.optional "startIndex" 0 Json.uint64?
    endIndex := ← fields.optional "endIndex" 0 Json.int64?
    byteOrder := ← fields.optional "byteOrder" none (nullable (named? kept ByteOrder.ofName?)) }

def ofJson? (j : Json) : Option ChecksumConfig :=
  recordFields? fieldNames j >>= ofFields? false

end ChecksumConfig

namespace TimestampConfig

def fieldNames : List String := ["format", "byteOrder"]

def toFields (config : TimestampConfig) : Fields :=
  [("format", .ofString config.format.name), ("byteOrder", .ofString config.byteOrder.name)]

def ofFields? (kept : Bool) (fields : Fields) : Option TimestampConfig := do
  return {
    format := ← fields.optional "format" .seconds (named? kept TimestampFormat.ofName?)
    byteOrder := ← fields.optional "byteOrder" .big (named? kept ByteOrder.ofName?) }

def ofJson? (j : Json) : Option TimestampConfig :=
  recordFields? fieldNames j >>= ofFields? false

end TimestampConfig

namespace CounterConfig

def fieldNames : List String := ["bytes", "currentValue", "defaultValue", "step"]

def toFields (config : CounterConfig) : Fields :=
  [("bytes", .ofNat config.bytes.toNat)] ++
    (match config.currentValue with
    | some value => [("currentValue", .ofString value)]
    | none => []) ++
    [("defaultValue", .ofString config.defaultValue), ("step", .ofNat config.step.toNat)]

def ofFields? (fields : Fields) : Option CounterConfig := do
  return {
    bytes := ← fields.required "bytes" Json.uint64?
    currentValue := ← fields.optional "currentValue" none (nullable Json.string?)
    defaultValue := ← fields.optional "defaultValue" "" Json.string?
    step := ← fields.optional "step" 1 Json.uint64? }

def ofJson? (j : Json) : Option CounterConfig :=
  recordFields? fieldNames j >>= ofFields?

end CounterConfig

namespace Format

def flagFields (hex : String) : Fields :=
  [("hex", .ofString hex)]

def flagOfFields? (fields : Fields) : Option String :=
  fields.required "hex" Json.string?

def flagOfJson? (j : Json) : Option String :=
  recordFields? ["hex"] j >>= flagOfFields?

end Format

namespace TokenKind

def toFields (kind : TokenKind) : Fields :=
  ("type", .ofString kind.name) ::
    match kind with
    | .checksum config => config.toFields
    | .flag hex => flagFields hex
    | .timestamp config => config.toFields
    | .counter config => config.toFields
    | .container children => [("segments", children.toJson)]
    | .unknown => []

def ofFields? (level : Nat) (fields : Fields) : Option TokenKind := do
  match ← fields.required "type" tag? with
  | .name "checksum" | .index 0 => .checksum <$> ChecksumConfig.ofFields? true fields
  | .name "flag" | .index 1 => .flag <$> flagOfFields? fields
  | .name "timestamp" | .index 2 => .timestamp <$> TimestampConfig.ofFields? true fields
  | .name "autoIncrement" | .index 3 => .counter <$> CounterConfig.ofFields? fields
  | .name "hex" | .index 4 =>
    .container <$> fields.optional "segments" .empty (Template.ofJson? (level + 1))
  | _ => some .unknown

end TokenKind

namespace Token

/-- A text field, left out if it is empty. -/
def textField (name text : String) : Fields :=
  if text = "" then [] else [(name, .ofString text)]

def toFields (t : Token) : Fields :=
  textField "id" t.id.text ++ textField "name" t.name ++ t.kind.toFields

def toJson (t : Token) : Json :=
  .ofFields t.toFields

def ofJson? (level : Nat) (j : Json) : Option Token := do
  let fields : Fields ← j.fields?
  let id ← fields.optional "id" "" Json.string?
  let name ← fields.optional "name" "" Json.string?
  let others := fields.without ["id", "name"]
  if others.admissible level then
    return { id := ⟨id⟩, name, kind := ← TokenKind.ofFields? level others }
  else none

end Token

namespace TokenTable

def toJson (t : TokenTable) : Json :=
  .ofFields (t.byId.entries.map fun entry => (entry.1.text, entry.2.toJson))

def ofJson? (level : Nat) (j : Json) : Option TokenTable := do
  let entries ← (← j.fields?).mapM fun field => do
    return ((⟨field.1⟩ : TokenId), ← Token.ofJson? (level + 1) field.2)
  return ofEntries entries

end TokenTable

end SerialFrame
