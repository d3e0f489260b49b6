import SerialFrame.Proofs.Command.Delivery
import SerialFrame.Proofs.Files.Tree

/-!
# Jobs on a tree of files

A job that uses only paths of a view does on the tree what it does on the view
(`mirrors_execute`), and so do jobs one after another (`run_mapM_execute`). So what holds of jobs on
all maps of files holds of jobs on a tree, as long as their paths lead to places of their own.
-/

namespace SerialFrame

variable {α β : Type} {paths : List String} {path : String}

/-- The first action does on a tree what the second does on a view of it through the paths. -/
def Mirrors (paths : List String) (x : ExceptT CommandError (StateM FileTree) α)
    (y : ExceptT CommandError (StateM (TreeView paths)) α) : Prop :=
  ∀ v : TreeView paths, onFiles v.tree x = ((onFiles v y).1, (onFiles v y).2.tree)

namespace Mirrors

theorem pure (a : α) :
    Mirrors paths (Pure.pure a) (Pure.pure a) :=
  fun _ => rfl

theorem throw (e : CommandError) :
    Mirrors paths (MonadExcept.throw e : ExceptT _ _ α) (MonadExcept.throw e) :=
  fun _ => rfl

theorem bind {x : ExceptT CommandError (StateM FileTree) α}
    {y : ExceptT CommandError (StateM (TreeView paths)) α}
    {f : α → ExceptT CommandError (StateM FileTree) β}
    {g : α → ExceptT CommandError (StateM (TreeView paths)) β} (hfirst : Mirrors paths x y)
    (hrest : ∀ a, Mirrors paths (f a) (g a)) : Mirrors paths (x >>= f) (y >>= g) := by
  intro v
  rw [onFiles_bind, onFiles_bind, hfirst v]
  obtain ⟨outcome, v'⟩ := onFiles v y
  cases outcome with
  | error e => rfl
  | ok a => exact hrest a v'

theorem readFile (hpath : path ∈ paths) :
    Mirrors paths (liftM (FileAccess.readFile path : StateM FileTree _))
      (liftM (FileAccess.readFile path : StateM (TreeView paths) _)) := by
  intro v
  have hfound : v.found path = v.tree.read path := if_pos hpath
  change (Except.ok (v.tree.read path), v.tree) = (Except.ok (v.found path), v.tree)
  rw [hfound]

theorem writeFile (hpath : path ∈ paths) (contents : ByteArray) :
    Mirrors paths (liftM (FileAccess.writeFile path contents : StateM FileTree _))
      (liftM (FileAccess.writeFile path contents : StateM (TreeView paths) _)) := by
  intro v
  rw [CompileJob.onFiles_writeFile]
  change (Except.ok ((FileAccess.writeFile path contents : StateM FileTree Bool) v.tree).1,
      ((FileAccess.writeFile path contents : StateM FileTree Bool) v.tree).2) =
    (Except.ok (v.write path contents).1, (v.write path contents).2.tree)
  cases hwrite : v.tree.write? path contents with
  | none => rw [FileTree.writeFile_of_none hwrite, v.write_of_none hwrite]
  | some tree => rw [FileTree.writeFile_of_some hwrite, v.write_of_some hpath hwrite]

theorem readText (hpath : path ∈ paths) :
    Mirrors paths (liftM (SerialFrame.readText path : StateM FileTree _))
      (liftM (SerialFrame.readText path : StateM (TreeView paths) _)) := by
  rw [SerialFrame.readText, SerialFrame.readText, liftM_bind, liftM_bind]
  refine (readFile hpath).bind fun contents => ?_
  cases contents with
  | error failure => exact pure (Except.error failure)
  | ok bytes =>
    dsimp only
    split
    · next text _ => exact pure (Except.ok text)
    · exact pure (Except.error ReadFailure.unreadable)

end Mirrors

namespace CompileJob

variable {job : CompileJob} {now : Clock} {project state : String}

theorem mirrors_loadProject (hpath : path ∈ paths) :
    Mirrors paths (loadProject path) (loadProject path) := by
  refine (Mirrors.readText hpath).bind fun text => ?_
  cases text with
  | error _ => exact .throw _
  | ok text =>
    dsimp only
    split
    · exact .pure _
    · exact .throw _

theorem mirrors_loadState (hpath : path ∈ paths) :
    Mirrors paths (loadState path) (loadState path) := by
  refine (Mirrors.readText hpath).bind fun text => ?_
  cases text with
  | error failure => cases failure with
    | missing => exact .pure _
    | unreadable => exact .throw _
  | ok text =>
    dsimp only
    split
    · exact .pure _
    · exact .throw _

theorem mirrors_save (hpath : path ∈ paths) (contents : ByteArray) :
    Mirrors paths (save path contents) (save path contents) := by
  refine (Mirrors.writeFile hpath contents).bind fun accepted => ?_
  cases accepted with
  | true => exact .pure _
  | false => exact .throw _

structure Within (job : CompileJob) (paths : List String) : Prop where
  project : job.project ∈ paths
  state : ∀ path ∈ job.state, path ∈ paths
  output : ∀ path ∈ job.output, path ∈ paths

section Stages

variable {m : Type → Type} [Monad m] [FileAccess m]

def commit (job : CompileJob) (frame : Frame) : ExceptT CommandError m CompileReport := do
  if let some path := job.state then
    save path frame.counters.toJson.pretty.toUTF8
  return ⟨job.project, job.mode, frame⟩

def deliver (job : CompileJob) : Except FrameError Frame → ExceptT CommandError m CompileReport
  | .error e => throw (.frame e)
  | .ok frame => do
    if let some path := job.output then
      save path frame.sent.toByteArray
    job.commit frame

theorem execute_eq (job : CompileJob) (now : Clock) :
    (job.execute now : ExceptT CommandError m CompileReport) =
      loadProject job.project >>= fun p =>
        job.state.elim (pure .empty) loadState >>= fun stored =>
          job.deliver (job.frame now p stored) := by
  obtain ⟨project, mode, state, reset, strict, output⟩ := job
  cases state <;> rfl

end Stages

theorem On.within (h : job.On project state) :
    job.Within (project :: state :: job.output.toList) where
  project := by simp [h.project_eq]
  state path hpath := by
    rw [h.state_eq] at hpath
    simp [Option.some.inj hpath]
  output path hpath := by simp [Option.mem_def.mp hpath]

theorem mirrors_commit (h : job.Within paths) (frame : Frame) :
    Mirrors paths (job.commit frame) (job.commit frame) := by
  unfold commit
  cases hstate : job.state with
  | none => exact .pure _
  | some state => exact (mirrors_save (h.state state hstate) _).bind fun _ => .pure _

theorem mirrors_deliver (h : job.Within paths) (result : Except FrameError Frame) :
    Mirrors paths (job.deliver result) (job.deliver result) := by
  cases result with
  | error e => exact .throw _
  | ok frame =>
    rw [deliver, deliver]
    cases houtput : job.output with
    | none => exact mirrors_commit h frame
    | some output =>
      exact (mirrors_save (h.output output houtput) _).bind fun _ => mirrors_commit h frame

theorem mirrors_execute (h : job.Within paths) (now : Clock) :
    Mirrors paths (job.execute now) (job.execute now) := by
  rw [execute_eq, execute_eq]
  refine (mirrors_loadProject h.project).bind fun p => .bind ?_ fun stored =>
    mirrors_deliver h (job.frame now p stored)
  cases hstate : job.state with
  | none => exact .pure CounterStore.empty
  | some state => exact mirrors_loadState (h.state state hstate)

/-! ### Jobs in order -/

/-- Jobs one after another on a tree come to what they come to on the view. -/
theorem run_mapM_execute {jobs : List CompileJob} (h : ∀ job ∈ jobs, job.Within paths) (now : Clock)
    (v : TreeView paths) :
    (jobs.mapM fun job => (job.execute now).run : StateM FileTree _).run v.tree =
      ((executeAll now jobs v).1.map (·.2), (executeAll now jobs v).2.tree) := by
  induction jobs generalizing v with
  | nil => rfl
  | cons job jobs ih =>
    have hjob := mirrors_execute (h job List.mem_cons_self) now v
    have hjobs := ih (fun job' h' => h job' (List.mem_cons_of_mem _ h'))
      (onFiles v (job.execute now)).2
    rw [List.mapM_cons, executeAll]
    change (let first := onFiles v.tree (job.execute now)
      let others := (jobs.mapM fun job => (job.execute now).run : StateM FileTree _).run first.2
      (first.1 :: others.1, others.2)) = _
    rw [hjob]
    dsimp only
    rw [hjobs, List.map_cons]

/-- A job that succeeds on a tree leaves the counters behind its frame in the state file, and one
that fails leaves that file as it was. -/
theorem tree_keeps_counters {t t' : FileTree} {outcome : Except CommandError CompileReport}
    (hon : job.On project state) (hapart : t.Apart (project :: state :: job.output.toList))
    (h : onFiles t (job.execute now) = (outcome, t')) :
    match outcome with
    | .ok report => onFiles t' (loadState state) = (.ok report.frame.counters, t')
    | .error _ => t'.read state = t.read state := by
  let v : TreeView (project :: state :: job.output.toList) := ⟨t, hapart⟩
  have hstate : state ∈ project :: state :: job.output.toList := by simp
  have hview := mirrors_execute hon.within now v
  obtain ⟨outcome', v', hdone⟩ : ∃ outcome' v', onFiles v (job.execute now) = (outcome', v') :=
    ⟨_, _, rfl⟩
  rw [hdone] at hview
  obtain ⟨rfl, rfl⟩ := Prod.mk.inj (h.symm.trans hview)
  have hends := execute_ends hon.state_eq hdone
  cases outcome with
  | ok report =>
    rw [mirrors_loadState hstate v', hends.loadState_of_ok]
  | error e =>
    have hfound : v'.found state = v.found state := hends.found_state_of_error hon
    rwa [TreeView.found, TreeView.found, if_pos hstate, if_pos hstate] at hfound

end CompileJob

end SerialFrame
