import SerialFrame.Frame.Assembly
import SerialFrame.Hex.Render

/-!
# Compiling frames

The segments of a template are taken in order, and what each stands for goes into the frame: hex
text is appended, a container is replaced by its segments, and a checksum covers what is there when
it is met. Only the finished frame is written in the mode asked for, so no checksum depends on it.

Containers may refer to each other in any way. Those that are open are pairwise different, so no
more of them are open than there are containers, and that number bounds the depth of the walk.
-/

namespace SerialFrame

structure Frame where
  sent : Bytes
  raw : Bytes
  checksums : List Placement
  warnings : List Warning
  counters : CounterStore
  deriving DecidableEq, Repr

namespace Frame

def degraded (f : Frame) : Bool :=
  !f.warnings.isEmpty

def hexText (f : Frame) : String :=
  Hex.spaced f.raw

end Frame

/-- The bytes that send a frame in the given mode: text is sent as ASCII. -/
def Mode.encode (mode : Mode) (raw : Bytes) : Bytes :=
  match mode with
  | .hex => raw
  | .text => (Hex.spacedChars raw).map fun c => UInt8.ofNat c.toNat

structure Compiler where
  options : Options := {}
  clock : Clock := ⟨0⟩
  deriving DecidableEq, Repr, Inhabited

namespace Compiler

variable (c : Compiler)

def resolve (walk : List Segment → Build Unit) (token : Token) : Build Unit :=
  match token.kind with
  | .checksum config => Build.insertChecksum c.options token.id config
  | .flag hex => Build.appendHex c.options (.flag token.id) hex
  | .timestamp config => Build.append (config.bytes c.clock)
  | .counter config => Build.sendCounter c.options token.id config
  | .container children => Build.expand c.options token.id (walk children.segments)
  | .unknown => Build.warn c.options (.unknownTokenKind token.id)

def place (tokens : TokenTable) (walk : List Segment → Build Unit) (segment : Segment) :
    Build Unit :=
  match segment.kind with
  | .literal content => Build.appendHex c.options (.literal segment.id) content
  | .token id =>
    match tokens.get? id with
    | some token => c.resolve walk token
    | none => Build.warn c.options (.danglingReference segment.id id)

/-- Puts segments into the frame in order, going down into containers at most `depth - 1` times. -/
def walk (tokens : TokenTable) : Nat → List Segment → Build Unit
  | 0, _ => pure ()
  | depth + 1, segments => segments.forM (c.place tokens (walk tokens depth))

def finish (a : Assembly) : Frame :=
  { sent := c.options.mode.encode a.buffer
    raw := a.buffer
    checksums := a.checksums
    warnings := a.warnings
    counters := a.counters }

def compile (segments : List Segment) (tokens : TokenTable) (counters : CounterStore) :
    Except FrameError Frame :=
  match c.walk tokens (tokens.containers.length + 1) segments { counters } with
  | .ok _ a => .ok (c.finish a)
  | .error e _ => .error e

end Compiler

end SerialFrame
