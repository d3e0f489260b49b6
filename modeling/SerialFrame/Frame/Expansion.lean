import SerialFrame.Frame.Compiler

/-!
# Templates with their containers expanded

What a template comes to when each container in it is replaced by its segments, in place and as far
as the limit allows. Only the table and the limit decide this: not the bytes, the clock, the
counters, the mode or the strictness. A frame can also be made from the leaves, one after another.
-/

namespace SerialFrame

/-- What stands at one place of an expanded template. -/
inductive Leaf
  | text (origin : Origin) (content : String)
  | timestamp (token : TokenId) (config : TimestampConfig)
  | counter (token : TokenId) (config : CounterConfig)
  | checksum (token : TokenId) (config : ChecksumConfig)
  | unknown (token : TokenId)
  | dangling (segment : SegmentId) (token : TokenId)
  | recursive (container : TokenId)
  | tooDeep (container : TokenId)
  deriving DecidableEq, Repr

namespace Leaf

def checksum? : Leaf → Option (TokenId × ChecksumConfig)
  | .checksum token config => some (token, config)
  | _ => none

variable (tokens : TokenTable) (limit : Nat)

/-- The leaves of a token while the containers `expanding` are open; `inside` gives those of the
segments of a container. -/
def ofToken (inside : List TokenId → List Segment → List Leaf) (expanding : List TokenId)
    (t : Token) : List Leaf :=
  match t.kind with
  | .checksum config => [.checksum t.id config]
  | .flag hex => [.text (.flag t.id) hex]
  | .timestamp config => [.timestamp t.id config]
  | .counter config => [.counter t.id config]
  | .container children =>
    if t.id ∈ expanding then [.recursive t.id]
    else if limit ≤ expanding.length then [.tooDeep t.id]
    else inside (expanding ++ [t.id]) children.segments
  | .unknown => [.unknown t.id]

def ofSegment (inside : List TokenId → List Segment → List Leaf) (expanding : List TokenId)
    (segment : Segment) : List Leaf :=
  match segment.kind with
  | .literal content => [.text (.literal segment.id) content]
  | .token id =>
    match tokens.get? id with
    | some t => ofToken limit inside expanding t
    | none => [.dangling segment.id id]

/-- The leaves of segments, going down into containers at most `depth - 1` times. -/
def ofSegments : Nat → List TokenId → List Segment → List Leaf
  | 0, _, _ => []
  | depth + 1, expanding, segments =>
    segments.flatMap (ofSegment tokens limit (ofSegments depth) expanding)

def under (expanding : List TokenId) (segments : List Segment) : List Leaf :=
  ofSegments tokens limit (tokens.containers.length + 1) expanding segments

def all (segments : List Segment) : List Leaf :=
  ofSegments tokens limit (tokens.containers.length + 1) [] segments

end Leaf

namespace Compiler

variable (c : Compiler)

def placeLeaf : Leaf → Build Unit
  | .text origin content => Build.appendHex c.options origin content
  | .timestamp _ config => Build.append (config.bytes c.clock)
  | .counter id config => Build.sendCounter c.options id config
  | .checksum id config => Build.insertChecksum c.options id config
  | .unknown id => Build.warn c.options (.unknownTokenKind id)
  | .dangling segment id => Build.warn c.options (.danglingReference segment id)
  | .recursive id => Build.warn c.options (.recursiveContainer id)
  | .tooDeep id => Build.warn c.options (.containerTooDeep id c.options.maxContainerDepth)

def put (a : Assembly) (leaf : Leaf) : Except FrameError Assembly :=
  match c.placeLeaf leaf a with
  | .ok _ b => .ok b
  | .error e _ => .error e

def leaves (tokens : TokenTable) (segments : List Segment) : List Leaf :=
  Leaf.all tokens c.options.maxContainerDepth segments

def compileLeaves (leaves : List Leaf) (counters : CounterStore) : Except FrameError Frame :=
  match leaves.forM c.placeLeaf { counters } with
  | .ok _ a => .ok (c.finish a)
  | .error e _ => .error e

end Compiler

end SerialFrame
