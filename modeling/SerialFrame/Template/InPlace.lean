import SerialFrame.Template

/-!
# Templates built in place

A template can also be built by changing a list at its end, with an eye on the last segment only:
text that is pushed, a segment that is pushed and a whole list that is merged each have a rule of
their own for a literal behind a literal.
-/

namespace SerialFrame.InPlace

def extendLast? (out : List Segment) (content : String) : Option (List Segment) :=
  match out.getLast? with
  | some ⟨id, .literal text⟩ => some (out.dropLast ++ [.literal id (text ++ content)])
  | _ => none

def pushLiteral (out : List Segment) (fresh : SegmentId) (content : String) : List Segment :=
  (extendLast? out content).getD (out ++ [.literal fresh content])

def pushToken (out : List Segment) (fresh : SegmentId) (tokenId : TokenId) : List Segment :=
  out ++ [.token fresh tokenId]

def push (out : List Segment) (s : Segment) : List Segment :=
  match s.kind with
  | .literal content => (extendLast? out content).getD (out ++ [s])
  | .token _ => out ++ [s]

def collect (segments : List Segment) : List Segment :=
  segments.foldl push []

/-- What merging does with the next segment, `out` being merged already. -/
def mergeNext (out : List Segment) (s : Segment) : List Segment :=
  match s.kind, out.getLast? with
  | .literal content, some ⟨id, .literal text⟩ =>
    out.dropLast ++ [.literal id (text ++ content)]
  | _, _ => out ++ [s]

def merge (segments : List Segment) : List Segment :=
  segments.foldl mergeNext []

end SerialFrame.InPlace
