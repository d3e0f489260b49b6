import SerialFrame.Command.Compile
import SerialFrame.Files.Map

/-!
# Frames delivered one after another

Jobs that keep their counters in one state file, done one after another on the same files, and the
frames that the same jobs make in memory, each from the counters that the last one left.
-/

namespace SerialFrame

/-- What comes of an action on the given files, and the files afterwards. -/
def onFiles {σ α : Type} (s : σ) (x : ExceptT CommandError (StateM σ) α) :
    Except CommandError α × σ :=
  x.run.run s

namespace CompileJob

/-- The job compiles the project and keeps the counters in the state file; the frame goes to neither
of the two. -/
structure On (job : CompileJob) (project state : String) : Prop where
  project_eq : job.project = project
  state_eq : job.state = some state
  output_ne_project : job.output ≠ some project
  output_ne_state : job.output ≠ some state

def frame (job : CompileJob) (now : Clock) (p : Project) (counters : CounterStore) :
    Except FrameError Frame :=
  p.compile { options := { mode := job.mode, strict := job.strict }, clock := now }
    (if job.reset then counters.resetAll p.tokens else counters)

def Makes {σ : Type} [FileMap σ] (job : CompileJob) (now : Clock) (s : σ) (state : String)
    (frame : Frame) : Prop :=
  ∃ p counters, onFiles s (loadProject job.project) = (.ok p, s) ∧
    onFiles s (loadState state) = (.ok counters, s) ∧ job.frame now p counters = .ok frame

def writeFrame {σ : Type} [FileMap σ] (job : CompileJob) (s : σ) (frame : Frame) : Bool × σ :=
  match job.output with
  | some path => FileMap.write s path frame.sent.toByteArray
  | none => (true, s)

/-- The frame can be written, and its counters after it. -/
def Accepts {σ : Type} [FileMap σ] (job : CompileJob) (s : σ) (state : String) (frame : Frame) :
    Prop :=
  (job.writeFrame s frame).1 ∧
    (FileMap.write (job.writeFrame s frame).2 state frame.counters.toJson.pretty.toUTF8).1

def frames (now : Clock) (p : Project) : CounterStore → List CompileJob → Except FrameError (List Frame)
  | _, [] => .ok []
  | counters, job :: jobs => do
    let frame ← job.frame now p counters
    let frames ← frames now p frame.counters jobs
    return frame :: frames

def executeAll {σ : Type} [FileMap σ] (now : Clock) :
    List CompileJob → σ → List (CompileJob × Except CommandError CompileReport) × σ
  | [], s => ([], s)
  | job :: jobs, s =>
    let first := onFiles s (job.execute now)
    let others := executeAll now jobs first.2
    ((job, first.1) :: others.1, others.2)

def delivered (outcomes : List (CompileJob × Except CommandError CompileReport)) :
    List (CompileJob × Frame) :=
  outcomes.filterMap fun (job, outcome) =>
    match outcome with
    | .ok report => some (job, report.frame)
    | .error _ => none

/-- The frames that were delivered are those made in memory from what the files held at first. -/
def Replays {σ : Type} [FileMap σ] (now : Clock) (s : σ) (project state : String)
    (made : List (CompileJob × Frame)) : Prop :=
  made = [] ∨ ∃ p counters, onFiles s (loadProject project) = (.ok p, s) ∧
    onFiles s (loadState state) = (.ok counters, s) ∧
    frames now p counters (made.map (·.1)) = .ok (made.map (·.2))

end CompileJob

end SerialFrame
