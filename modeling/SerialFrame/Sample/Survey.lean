import SerialFrame.Format.Project
import SerialFrame.Sample.Strategies

/-!
# Surveys of random samples

A survey draws many samples of a strategy and tells how many have the property that all should
have, which values turn up, and what the samples shrink to.
-/

namespace SerialFrame.Sample

inductive Feature
  | number (n : Int)
  | text (s : String)
  deriving DecidableEq

def Feature.le : Feature → Feature → Bool
  | number a, number b => a ≤ b
  | number _, text _ => true
  | text _, number _ => false
  | text a, text b => a ≤ b

def Feature.toJson : Feature → Json
  | number n => .ofInt n
  | text s => .ofString s

def addFeature (seen : List Feature) (f : Feature) : List Feature :=
  if seen.contains f then seen else f :: seen

/-- What samples of a strategy look like. -/
structure Survey where
  samples : Nat
  inDomain : Nat
  /-- The different values seen of each property, in ascending order. -/
  covered : List (String × List Feature)
  minimal : Json

def Survey.toJson (s : Survey) : Json :=
  .ofFields [("samples", .ofNat s.samples), ("in_domain", .ofNat s.inDomain),
    ("covered", .ofFields (s.covered.map fun (name, values) =>
      (name, .array (values.map Feature.toJson)))),
    ("minimal", .array [s.minimal])]

/-- A strategy with what a survey needs to know of it. -/
structure Surveyed (α : Type) where
  strategy : Strategy α
  holds : α → Bool
  features : List (String × (α → List Feature))
  written : α → Json

def Surveyed.survey {α : Type} (s : Surveyed α) (n : Nat) (r : Random) : Survey :=
  let samples := s.strategy.samples n r
  { samples := samples.length
    inDomain := samples.countP s.holds
    covered := s.features.map fun (name, values) =>
      (name, ((samples.foldl (fun seen a => (values a).foldl addFeature seen) []).mergeSort
        Feature.le))
    minimal := s.written s.strategy.simplest }

def showSegment (s : Segment) : Json :=
  match s.kind with
  | .literal content => .ofFields [("literal", .ofString content)]
  | .token id => .ofFields [("token", .ofString id.text)]

def showDocument (j : Json) : Json :=
  .ofString j.compact

def orderFeature (order : Option ByteOrder) : Feature :=
  .text ((order.map ByteOrder.name).getD "none")

def tokenIdFeatures (ids : List TokenId) : List Feature :=
  ids.map fun id => .text id.text

def tableFeatures (t : TokenTable) : List Feature :=
  t.tokens.map fun token => .text (token.id.text ++ ":" ++ token.kind.name)

def survey? (name : String) (n : Nat) (r : Random) : Option Survey :=
  match name with
  | "hex_literal" => some <| Surveyed.survey
      { strategy := hexLiteral
        holds := isHexLiteral
        features := [("byte_count", fun text =>
          [.number (Hex.readLenient text).bytes.length])]
        written := Json.ofString } n r
  | "messy_literal" => some <| Surveyed.survey
      { strategy := messyLiteral
        holds := isMessy
        features := [("chars", fun text => text.toList.map fun c => .text c.toString),
          ("length", fun text => [.number text.length])]
        written := Json.ofString } n r
  | "algorithm" => some <| Surveyed.survey
      { strategy := algorithm
        holds := fun _ => true
        features := [("algorithm", fun a => [.text a.name])]
        written := fun a => .ofString a.name } n r
  | "byte_order" => some <| Surveyed.survey
      { strategy := byteOrder
        holds := fun _ => true
        features := [("order", fun order => [orderFeature order])]
        written := fun order => .ofString order.name } n r
  | "checksum_config" => some <| Surveyed.survey
      { strategy := checksumConfig
        holds := isChecksumConfig
        features := [("algorithm", fun c => [.text c.algorithm]),
          ("start", fun c => [.number c.startIndex.toNat]),
          ("end", fun c => [.number c.endIndex.toInt]),
          ("order", fun c => [orderFeature c.byteOrder])]
        written := fun c => showDocument (.ofFields c.toFields) } n r
  | "timestamp_config" => some <| Surveyed.survey
      { strategy := timestampConfig
        holds := fun _ => true
        features := [("config", fun c =>
          [.text (c.format.width.repr ++ " " ++ c.byteOrder.name)])]
        written := fun c => showDocument (.ofFields c.toFields) } n r
  | "auto_increment" => some <| Surveyed.survey
      { strategy := counterConfig
        holds := isCounterConfig
        features := [("bytes", fun c => [.number c.bytes.toNat]),
          ("current", fun c => [.text (if c.currentValue.isSome then "some" else "none")]),
          ("step_hundreds", fun c => [.number (c.step.toNat / 100)])]
        written := fun c => showDocument (.ofFields c.toFields) } n r
  | "token_segment" => some <| Surveyed.survey
      { strategy := tokenSegment
        holds := isTokenSegment
        features := [("token_id", fun s => tokenIdFeatures s.tokenId?.toList)]
        written := showSegment } n r
  | "template" => some <| Surveyed.survey
      { strategy := template
        holds := isTemplate
        features := [("token_id", fun t => tokenIdFeatures t.tokenIds)]
        written := fun t => .array (t.segments.map showSegment) } n r
  | "token_table" => some <| Surveyed.survey
      { strategy := tokenTable
        holds := isTokenTable
        features := [("tokens", tableFeatures)]
        written := fun t => showDocument t.toJson } n r
  | "project" => some <| Surveyed.survey
      { strategy := anyProject
        holds := isProject
        features := [("tokens", fun p => tableFeatures p.tokens)]
        written := fun p => showDocument p.toJson } n r
  | _ => none

end SerialFrame.Sample
