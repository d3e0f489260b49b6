import SerialFrame.Frame.Expansion

/-!
# Edits

What a leaf does to a frame, without a monad: it edits the bytes, raises warnings and may advance a
counter. An edit appends bytes at the end or inserts a checksum. Strictness plays no part in this;
it only decides whether the work goes on after a warning.
-/

namespace SerialFrame

inductive Edit
  | append (bytes : Bytes)
  | insert (placement : Placement)
  deriving DecidableEq, Repr

def Checksum.Splice.placement (s : Splice) (id : TokenId) : Placement :=
  ⟨id, s.algorithm, s.start, s.offset, s.value⟩

def Hex.Reading.warnings (r : Reading) (origin : Origin) : List Warning :=
  (if 0 < r.stripped then [.strippedCharacters origin r.stripped] else []) ++
    (r.droppedNibble.map (Warning.truncatedNibble origin)).toList

namespace Edit

def on {α : Type} (new items : List α) : Edit → List α
  | .append _ => items ++ new
  | .insert p => items.take p.offset ++ new ++ items.drop p.offset

@[simp]
def bytes : Edit → Bytes
  | .append bytes => bytes
  | .insert p => p.value

def apply (e : Edit) (buffer : Bytes) : Bytes :=
  e.on e.bytes buffer

@[simp]
def appended : Edit → Bytes
  | .append bytes => bytes
  | .insert _ => []

@[simp]
def placement? : Edit → Option Placement
  | .append _ => none
  | .insert p => some p

end Edit

/-- The error with which a leaf ends the work whatever is there: it is a checksum of an unknown
algorithm. -/
def Leaf.refusal? : Leaf → Option FrameError
  | .checksum token config =>
    match Checksum.Algorithm.ofName? config.algorithm with
    | some _ => none
    | none => some (.unsupportedAlgorithm token config.algorithm)
  | _ => none

namespace Compiler

variable (c : Compiler)

def tick? (id : TokenId) (config : CounterConfig) (store : CounterStore) : Option Counter.Tick :=
  if c.options.maxCounterWidth < config.bytes.toNat then none else Counter.tick? id config store

/-- What a literal, flag, timestamp or counter that is sent contributes to the frame, the counters
being as in `store`. -/
def payload? (store : CounterStore) : Leaf → Option Bytes
  | .text _ content => some (Hex.readLenient content).bytes
  | .timestamp _ config => some (config.bytes c.clock)
  | .counter id config => (c.tick? id config store).map (·.emitted)
  | _ => none

def payload (store : CounterStore) (leaf : Leaf) : Bytes :=
  (c.payload? store leaf).getD []

def advance (store : CounterStore) : Leaf → CounterStore
  | .counter id config =>
    match c.tick? id config store with
    | some tick => store.set id tick.next
    | none => store
  | _ => store

def warnings (a : Assembly) : Leaf → List Warning
  | .text origin content => (Hex.readLenient content).warnings origin
  | .timestamp _ _ => []
  | .counter id config =>
    if c.options.maxCounterWidth < config.bytes.toNat then
      [.counterTooWide id config.bytes c.options.maxCounterWidth]
    else if config.bytes = 0 then [.zeroWidthCounter id]
    else []
  | .checksum id config =>
    match Checksum.Splice.of? config a.buffer with
    | some splice =>
      if splice.clamped then
        [.checksumRangeClamped id config.startIndex config.endIndex a.buffer.length]
      else []
    | none => []
  | .unknown id => [.unknownTokenKind id]
  | .dangling segment id => [.danglingReference segment id]
  | .recursive id => [.recursiveContainer id]
  | .tooDeep id => [.containerTooDeep id c.options.maxContainerDepth]

def edit (a : Assembly) : Leaf → Except FrameError Edit
  | .checksum id config =>
    match Checksum.Splice.of? config a.buffer with
    | some splice => .ok (.insert (splice.placement id))
    | none => .error (.unsupportedAlgorithm id config.algorithm)
  | leaf => .ok (.append (c.payload a.counters leaf))

def after (a : Assembly) (leaf : Leaf) (e : Edit) : Assembly :=
  { a with
    buffer := e.apply a.buffer
    checksums := a.checksums ++ e.placement?.toList
    warnings := a.warnings ++ c.warnings a leaf
    counters := c.advance a.counters leaf }

/-- The assembly after a leaf when the work goes on after warnings. -/
def effect (a : Assembly) (leaf : Leaf) : Except FrameError Assembly :=
  (c.edit a leaf).map (c.after a leaf)

end Compiler

end SerialFrame
