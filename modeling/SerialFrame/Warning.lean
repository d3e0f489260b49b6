import SerialFrame.Segment
import SerialFrame.Text.Quoted

/-!
# Warnings

What a compile noticed and went on from.
-/

namespace SerialFrame

inductive Origin
  | literal (segment : SegmentId)
  | flag (token : TokenId)
  deriving DecidableEq, Repr

def Origin.message : Origin → String
  | literal segment => "literal segment " ++ segment.text
  | flag token => "flag token " ++ token.text

/-- A fault of a template that does not prevent a frame. -/
inductive Warning
  | danglingReference (segment : SegmentId) (token : TokenId)
  | unknownTokenKind (token : TokenId)
  | strippedCharacters (origin : Origin) (count : Nat)
  | truncatedNibble (origin : Origin) (nibble : Char)
  | checksumRangeClamped (token : TokenId) (startIndex : UInt64) (endIndex : Int64) (length : Nat)
  | counterTooWide (token : TokenId) (bytes : UInt64) (limit : Nat)
  | recursiveContainer (token : TokenId)
  | containerTooDeep (token : TokenId) (limit : Nat)
  | zeroWidthCounter (token : TokenId)
  deriving DecidableEq, Repr

namespace Warning

def origin? : Warning → Option Origin
  | strippedCharacters origin _ => some origin
  | truncatedNibble origin _ => some origin
  | _ => none

def strippedCount? : Warning → Option Nat
  | strippedCharacters _ count => some count
  | _ => none

def droppedNibble? : Warning → Option Char
  | truncatedNibble _ nibble => some nibble
  | _ => none

end Warning

def Warning.message : Warning → String
  | danglingReference segment token =>
    "segment " ++ segment.text ++ " references unknown token " ++ token.text
  | unknownTokenKind token => "token " ++ token.text ++ " has an unknown kind and was skipped"
  | strippedCharacters origin count =>
    origin.message ++ ": stripped " ++ count.repr ++ " non-hex character(s)"
  | truncatedNibble origin nibble =>
    origin.message ++ ": dropped trailing nibble " ++ Text.quotedChar nibble
  | checksumRangeClamped token startIndex endIndex length =>
    "checksum token " ++ token.text ++ ": range start=" ++ startIndex.toNat.repr ++ " end=" ++
      endIndex.toInt.repr ++ " clamped to buffer of " ++ length.repr ++ " byte(s)"
  | counterTooWide token bytes limit =>
    "counter token " ++ token.text ++ " is " ++ bytes.toNat.repr ++
      " byte(s) wide, above the limit of " ++ limit.repr ++ ", and was skipped"
  | recursiveContainer token =>
    "hex container " ++ token.text ++ " re-enters itself and was skipped"
  | containerTooDeep token limit =>
    "hex container " ++ token.text ++ " exceeds nesting limit of " ++ limit.repr
  | zeroWidthCounter token => "auto-increment token " ++ token.text ++ " has zero width"

end SerialFrame
