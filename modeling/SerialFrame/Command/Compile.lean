import SerialFrame.Command.Error
import SerialFrame.Files.Access
import SerialFrame.Format.Counters
import SerialFrame.Format.Project

/-!
# The compile command

A project file is compiled, starting from the counters in a state file. The new counters are
written only after the frame has been, so that a frame that was not delivered does not count.
-/

namespace SerialFrame

structure CompileJob where
  project : String
  mode : Mode := .hex
  state : Option String := none
  reset : Bool := false
  strict : Bool := false
  output : Option String := none
  deriving DecidableEq, Repr

structure CompileReport where
  project : String
  mode : Mode
  frame : Frame
  deriving DecidableEq

namespace CompileJob

variable {m : Type → Type} [Monad m] [FileAccess m]

def loadProject (path : String) : ExceptT CommandError m Project := do
  match ← (readText path : m _) with
  | .ok text =>
    match Project.parse text with
    | some project => return project
    | none => throw (.parse path "project")
  | .error _ => throw (.io path)

/-- Reads the file of the counters; a missing one holds none. -/
def loadState (path : String) : ExceptT CommandError m CounterStore := do
  match ← (readText path : m _) with
  | .ok text =>
    match CounterStore.parse text with
    | some counters => return counters
    | none => throw (.parse path "counter state")
  | .error .missing => return .empty
  | .error .unreadable => throw (.io path)

def save (path : String) (contents : ByteArray) : ExceptT CommandError m Unit := do
  if ← (FileAccess.writeFile path contents : m _) then
    return
  else
    throw (.io path)

def execute (job : CompileJob) (now : Clock) : ExceptT CommandError m CompileReport := do
  let project ← loadProject job.project
  let stored ← match job.state with
    | some path => loadState path
    | none => pure .empty
  let counters := if job.reset then stored.resetAll project.tokens else stored
  let compiler : Compiler := { options := { mode := job.mode, strict := job.strict }, clock := now }
  match project.compile compiler counters with
  | .error e => throw (.frame e)
  | .ok frame =>
    if let some path := job.output then
      save path frame.sent.toByteArray
    if let some path := job.state then
      save path frame.counters.toJson.pretty.toUTF8
    return ⟨job.project, job.mode, frame⟩

end CompileJob

end SerialFrame
