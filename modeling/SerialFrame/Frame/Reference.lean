import Mathlib.Logic.Relation
import SerialFrame.Token.Table

/-!
# References among containers

Segments refer to tokens, and the children of a container are segments again: the containers of a
table and the references among them are a graph, entered from the segments of a template. The tokens
that a template uses are those referred to anywhere in that part of the graph; under a limit, a walk
meets those that it comes to through containers that can be opened.
-/

namespace SerialFrame

def Refers (segments : List Segment) (id : TokenId) : Prop :=
  ∃ segment ∈ segments, segment.tokenId? = some id

namespace TokenTable

/-- From `segments` one comes to the segments `last` by going down into the containers of the path,
each of which is referred to where one has come to. -/
inductive Leads (t : TokenTable) : List Segment → List TokenId → List Segment → Prop
  | here (segments : List Segment) : Leads t segments [] segments
  | down {segments last : List Segment} {id : TokenId} {children : Template} {path : List TokenId}
      (refers : Refers segments id) (container : t.container? id = some children)
      (leads : Leads t children.segments path last) : Leads t segments (id :: path) last

structure Path (t : TokenTable) (segments : List Segment) (path : List TokenId)
    (last : List Segment) : Prop where
  leads : t.Leads segments path last
  nodup : path.Nodup

def Encloses (t : TokenTable) (a b : TokenId) : Prop :=
  ∃ children, t.container? a = some children ∧ Refers children.segments b ∧ (t.container? b).isSome

def Reachable (t : TokenTable) (segments : List Segment) (id : TokenId) : Prop :=
  ∃ first, Refers segments first ∧ (t.container? first).isSome ∧
    Relation.ReflTransGen t.Encloses first id

/-- The token called `id` is referred to by `segments`, or by the children of a container that they
use. There need not be such a token. -/
inductive Uses (t : TokenTable) (segments : List Segment) : TokenId → Prop
  | direct {id : TokenId} (refers : Refers segments id) : Uses t segments id
  | inside {container id : TokenId} {children : Template} (uses : Uses t segments container)
      (contains : t.container? container = some children) (refers : Refers children.segments id) :
      Uses t segments id

/-- The token called `id` is referred to by `segments`, or inside of a container that they refer to
and that can be opened while the containers `expanding` are: it is not one of them, nor one too
many. There need not be such a token. -/
inductive Meets (t : TokenTable) (limit : Nat) : List TokenId → List Segment → TokenId → Prop
  | here {expanding : List TokenId} {segments : List Segment} {id : TokenId}
      (refers : Refers segments id) : Meets t limit expanding segments id
  | inside {expanding : List TokenId} {segments : List Segment} {key id : TokenId} {token : Token}
      {children : Template} (refers : Refers segments key) (found : t.get? key = some token)
      (contains : token.kind = .container children) (closed : token.id ∉ expanding)
      (room : expanding.length < limit)
      (meets : Meets t limit (expanding ++ [token.id]) children.segments id) :
      Meets t limit expanding segments id

def UsesCounter (t : TokenTable) (segments : List Segment) (id : TokenId) : Prop :=
  t.Uses segments id ∧ ∃ token config, t.get? id = some token ∧ token.kind = .counter config

def UsesChecksum (t : TokenTable) (segments : List Segment) (id : TokenId) : Prop :=
  t.Uses segments id ∧ ∃ token config, t.get? id = some token ∧ token.kind = .checksum config

end TokenTable

end SerialFrame
