import SerialFrame.Checksum.Splice
import SerialFrame.Counter.Tick
import SerialFrame.Frame.Error
import SerialFrame.Hex.Lenient
import SerialFrame.Options
import SerialFrame.Token.Timestamp

/-!
# Assembling a frame

An `Assembly` is a frame half done. Each step appends bytes, inserts a checksum, advances a counter
or raises a warning; in strict mode a warning ends the work. The assembly is kept when a step fails,
so that what was open can be closed.
-/

namespace SerialFrame

/-- A checksum that was inserted. Its offsets are those of the moment; bytes inserted later in
front of it move it on. -/
structure Placement where
  token : TokenId
  algorithm : Checksum.Algorithm
  start : Nat
  /-- The offset behind the last byte covered, where the checksum was inserted. -/
  offset : Nat
  value : Bytes
  deriving DecidableEq, Repr

structure Assembly where
  buffer : Bytes := []
  checksums : List Placement := []
  warnings : List Warning := []
  counters : CounterStore
  expanding : List TokenId := []
  deriving DecidableEq, Repr

abbrev Build := EStateM FrameError Assembly

namespace Build

def warn (options : Options) (warning : Warning) : Build Unit :=
  if options.strict then throw (.degraded warning)
  else modify fun a => { a with warnings := a.warnings ++ [warning] }

def append (bytes : Bytes) : Build Unit :=
  modify fun a => { a with buffer := a.buffer ++ bytes }

def appendHex (options : Options) (origin : Origin) (text : String) : Build Unit := do
  let reading := Hex.readLenient text
  append reading.bytes
  if 0 < reading.stripped then
    warn options (.strippedCharacters origin reading.stripped)
  match reading.droppedNibble with
  | some nibble => warn options (.truncatedNibble origin nibble)
  | none => pure ()

def insertChecksum (options : Options) (id : TokenId) (config : ChecksumConfig) : Build Unit := do
  let buffer := (← get).buffer
  match Checksum.Splice.of? config buffer with
  | none => throw (.unsupportedAlgorithm id config.algorithm)
  | some splice =>
    if splice.clamped then
      warn options (.checksumRangeClamped id config.startIndex config.endIndex buffer.length)
    modify fun a =>
      { a with
        buffer := splice.apply a.buffer
        checksums := a.checksums ++
          [⟨id, splice.algorithm, splice.start, splice.offset, splice.value⟩] }

def sendCounter (options : Options) (id : TokenId) (config : CounterConfig) : Build Unit := do
  if options.maxCounterWidth < config.bytes.toNat then
    warn options (.counterTooWide id config.bytes options.maxCounterWidth)
  else
    match Counter.tick? id config (← get).counters with
    | some tick =>
      append tick.emitted
      modify fun a => { a with counters := a.counters.set id tick.next }
    | none => warn options (.zeroWidthCounter id)

/-- Does `body` while the container `id` is open. The container is closed also if `body` fails. -/
def within (id : TokenId) (body : Build Unit) : Build Unit := fun a =>
  match body { a with expanding := a.expanding ++ [id] } with
  | .ok _ after => .ok () { after with expanding := after.expanding.dropLast }
  | .error e after => .error e { after with expanding := after.expanding.dropLast }

def expand (options : Options) (id : TokenId) (body : Build Unit) : Build Unit := do
  let expanding := (← get).expanding
  if id ∈ expanding then
    warn options (.recursiveContainer id)
  else if options.maxContainerDepth ≤ expanding.length then
    warn options (.containerTooDeep id options.maxContainerDepth)
  else
    within id body

end Build

end SerialFrame
