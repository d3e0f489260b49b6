import SerialFrame.Id

/-!
# Segments

What stands at one place of a frame: hex text typed by a person, or a reference to a token.
-/

namespace SerialFrame

inductive SegmentKind
  | literal (content : String)
  | token (id : TokenId)
  deriving DecidableEq, Repr

structure Segment where
  id : SegmentId
  kind : SegmentKind
  deriving DecidableEq, Repr

namespace Segment

def literal (id : SegmentId) (content : String) : Segment :=
  ⟨id, .literal content⟩

def token (id : SegmentId) (tokenId : TokenId) : Segment :=
  ⟨id, .token tokenId⟩

def literal? (s : Segment) : Option String :=
  match s.kind with
  | .literal content => some content
  | .token _ => none

def tokenId? (s : Segment) : Option TokenId :=
  match s.kind with
  | .literal _ => none
  | .token id => some id

theorem tokenId?_eq_some_iff {s : Segment} {id : TokenId} :
    s.tokenId? = some id ↔ s.kind = .token id := by
  unfold tokenId?
  cases s.kind <;> simp

def isLiteral (s : Segment) : Bool :=
  s.literal?.isSome

end Segment

end SerialFrame
