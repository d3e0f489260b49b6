import SerialFrame.Hex.Lenient
import SerialFrame.Id.Random
import SerialFrame.Project
import SerialFrame.Random.Strategy
import SerialFrame.Sample.Projects

/-!
# Random projects

Strategies for hex texts, configurations, segments, tables and whole projects, each with the
property that all its values have. Checksum algorithms are always known ones, so that a project
drawn here compiles unless warnings are refused.
-/

namespace SerialFrame.Sample

def tokenIds : List String := ["sof", "crc", "ts", "seq", "body"]

def bytePair (lower : Bool) (b : UInt8) : List Char :=
  if lower then (Hex.digitPair b).map Char.toLower else Hex.digitPair b

def alternating (bytes : Bytes) : String :=
  let words := bytes.zipIdx.map fun (b, i) => bytePair (i % 2 = 1) b
  String.ofList (words.intersperse [' ']).flatten

def hexLiteral : Strategy String := do
  let bytes ← Strategy.listBelow 16 (UInt8.ofNat <$> Strategy.below 256)
  return alternating bytes

def messyChars : List Char :=
  "0123456789ABCDEFabcdef xZ:-".toList

def messyLiteral : Strategy String := do
  let chars ← Strategy.listBelow 25 (Strategy.select '0' (messyChars.drop 1))
  return String.ofList chars

def algorithm : Strategy Checksum.Algorithm :=
  .select .crc16Modbus [.crc16Ccitt, .crc32]

def byteOrder : Strategy ByteOrder :=
  .select .big [.little]

/-- The configuration of a checksum, with indices that may lie outside the frame. -/
def checksumConfig : Strategy ChecksumConfig := do
  return {
    algorithm := (← algorithm).name
    startIndex := .ofNat (← Strategy.below 8)
    endIndex := .ofInt (← Strategy.between (-12) 2)
    byteOrder := ← byteOrder.optional }

def timestampConfig : Strategy TimestampConfig := do
  return {
    format := ← Strategy.select .seconds [.milliseconds]
    byteOrder := ← byteOrder }

def counterConfig : Strategy CounterConfig := do
  return {
    bytes := .ofNat (← Strategy.below 5)
    currentValue := ← hexLiteral.optional
    step := .ofNat (← Strategy.below 300) }

def segmentId : Strategy SegmentId :=
  ⟨SegmentId.generate, (SegmentId.generate ⟨0⟩).1⟩

/-- A segment that refers to a token of the table, or sometimes to one that is missing. -/
def tokenSegment : Strategy Segment := do
  let known := Strategy.select "sof" (tokenIds.drop 1)
  let token ← Strategy.oneOf known (List.replicate 7 known ++ [pure "missing"])
  return .token (← segmentId) ⟨token⟩

def template : Strategy Template := do
  let literal (text : Strategy String) : Strategy Segment := do
    let content ← text
    return .literal (← segmentId) content
  let segments ← Strategy.listBelow 10
    (Strategy.oneOf (literal hexLiteral) [literal messyLiteral, tokenSegment])
  return .ofSegments segments

/-- A table of all the token ids. The container may refer to any of them, itself included. -/
def tokenTable : Strategy TokenTable := do
  let flag ← hexLiteral
  let checksum ← checksumConfig
  let timestamp ← timestampConfig
  let counter ← counterConfig
  let body ← template
  return .ofTokens [token "sof" (.flag flag), token "crc" (.checksum checksum),
    token "ts" (.timestamp timestamp), token "seq" (.counter counter),
    token "body" (.container body)]

def anyProject : Strategy Project := do
  let template ← template
  return { template, tokens := ← tokenTable }

/-! ### What all samples have in common -/

def isHexLiteral (text : String) : Bool :=
  alternating (Hex.readLenient text).bytes == text

def isMessy (text : String) : Bool :=
  text.toList.all messyChars.contains

def isChecksumConfig (config : ChecksumConfig) : Bool :=
  config.startIndex < 8 && -12 ≤ config.endIndex.toInt && config.endIndex.toInt ≤ 2

/-- The numbers are in the range that is drawn from, and there is only a current value. -/
def isCounterConfig (config : CounterConfig) : Bool :=
  config.bytes < 5 && config.step < 300 && config.defaultValue == "" &&
    config.currentValue.all isHexLiteral

def isTokenSegment (segment : Segment) : Bool :=
  segment.tokenId?.any fun id => ("missing" :: tokenIds).contains id.text

def isTemplate (t : Template) : Bool :=
  t.segments.length ≤ 9 && decide (normalize t.segments = t.segments) &&
    t.segments.all fun segment => segment.isLiteral || isTokenSegment segment

def isTokenTable (t : TokenTable) : Bool :=
  t.tokens.all fun token =>
    match token.kind with
    | .flag hex => isHexLiteral hex
    | .container children => isTemplate children
    | _ => true

def placementFits (frame : Frame) (p : Placement) : Bool :=
  p.start ≤ p.offset && p.value.length == p.algorithm.width &&
    p.offset + p.value.length ≤ frame.raw.length

def bodyRecurs (p : Project) : Bool :=
  p.template.tokenIds.contains ⟨"body"⟩ &&
    ((p.tokens.get? ⟨"body"⟩).bind Token.children?).any fun children =>
      children.tokenIds.contains ⟨"body"⟩

def reportsRecursion (frame : Frame) : Bool :=
  frame.warnings.any fun
    | .recursiveContainer _ => true
    | _ => false

/-- The project compiles in both modes to the same bytes, which the text spells, and the frame is
what the strategies promise. -/
def isProject (p : Project) : Bool :=
  isTemplate p.template && isTokenTable p.tokens &&
    match p.compile (fixedCompiler .hex) .empty, p.compile (fixedCompiler .text) .empty with
    | .ok frame, .ok text =>
      text.raw == frame.raw &&
        (Hex.readFrom none (text.sent.map fun b => Char.ofNat b.toNat)).bytes == frame.raw &&
        reportsRecursion frame == bodyRecurs p && frame.checksums.all (placementFits frame)
    | _, _ => false

end SerialFrame.Sample
