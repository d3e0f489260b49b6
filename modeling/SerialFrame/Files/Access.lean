/-!
# Access to files

What a command needs of a file system: reading a whole file and replacing a whole file. A write
that fails leaves the file as it was.
-/

namespace SerialFrame

inductive ReadFailure
  | missing
  /-- It is there but cannot be read. -/
  | unreadable
  deriving DecidableEq, Repr

class FileAccess (m : Type → Type) where
  readFile : String → m (Except ReadFailure ByteArray)
  /-- Puts contents in place of a file, and says whether that succeeded. -/
  writeFile : String → ByteArray → m Bool

def readText {m : Type → Type} [Monad m] [FileAccess m] (path : String) :
    m (Except ReadFailure String) := do
  match ← FileAccess.readFile path with
  | .ok contents =>
    match String.fromUTF8? contents with
    | some text => return .ok text
    | none => return .error .unreadable
  | .error failure => return .error failure

end SerialFrame
