import SerialFrame.Command.Delivery
import SerialFrame.Proofs.Format.Counters

/-!
# What a compile leaves behind

A compile looks at its two input files before it writes anything, and writes the frame before the
counters. So it ends in one of three ways (`execute_ends`): it has changed nothing, it has written a
frame but not its counters, or it has written both. The last happens if and only if a frame can be
made and no write is refused.
-/

namespace SerialFrame

open FileMap

section Actions

variable {σ α β : Type} {s s' : σ} {path : String}

theorem onFiles_bind (s : σ) (x : ExceptT CommandError (StateM σ) α)
    (f : α → ExceptT CommandError (StateM σ) β) :
    onFiles s (x >>= f) =
      match onFiles s x with
      | (.ok a, s') => onFiles s' (f a)
      | (.error e, s') => (.error e, s') := by
  have hbind : onFiles s (x >>= f) =
      StateT.run (m := Id) (ExceptT.bindCont f (onFiles s x).1) (onFiles s x).2 := rfl
  rw [hbind]
  rcases onFiles s x with ⟨_ | _, _⟩ <;> rfl

variable [FileMap σ]

/-- What the action gives is found at the path, and it leaves all files as they are. -/
def LooksAt (path : String) (x : ExceptT CommandError (StateM σ) α) : Prop :=
  ∃ look : Except ReadFailure ByteArray → Except CommandError α,
    ∀ s, onFiles s x = (look (found s path), s)

namespace LooksAt

theorem pure (path : String) (a : α) :
    LooksAt path (Pure.pure a : ExceptT CommandError (StateM σ) α) :=
  ⟨fun _ => .ok a, fun _ => rfl⟩

theorem throw (path : String) (e : CommandError) :
    LooksAt path (MonadExcept.throw e : ExceptT CommandError (StateM σ) α) :=
  ⟨fun _ => .error e, fun _ => rfl⟩

theorem bind {x : ExceptT CommandError (StateM σ) α} {f : α → ExceptT CommandError (StateM σ) β}
    (hx : LooksAt path x) (hf : ∀ a, LooksAt path (f a)) : LooksAt path (x >>= f) := by
  obtain ⟨look, hlook⟩ := hx
  choose next hnext using hf
  refine ⟨fun contents => look contents >>= fun a => next a contents, fun s => ?_⟩
  rw [onFiles_bind, hlook]
  dsimp only
  cases look (found s path) with
  | error e => rfl
  | ok a => exact hnext a s

theorem readText (path : String) :
    LooksAt path (liftM (SerialFrame.readText path : StateM σ _) :
      ExceptT CommandError (StateM σ) _) := by
  rw [SerialFrame.readText, liftM_bind]
  refine .bind ⟨fun contents => .ok contents, fun _ => rfl⟩ fun contents => ?_
  cases contents with
  | error failure => exact .pure path (Except.error failure)
  | ok bytes =>
    dsimp only
    split
    · next text _ => exact .pure path (Except.ok text)
    · exact .pure path (Except.error ReadFailure.unreadable)

theorem congr {x : ExceptT CommandError (StateM σ) α} (h : LooksAt path x)
    (hfound : found s' path = found s path) :
    onFiles s' x = ((onFiles s x).1, s') := by
  obtain ⟨look, hlook⟩ := h
  rw [hlook, hlook, hfound]

theorem exists_onFiles_eq {x : ExceptT CommandError (StateM σ) α} (h : LooksAt path x) (s : σ) :
    ∃ outcome, onFiles s x = (outcome, s) :=
  let ⟨_, hlook⟩ := h
  ⟨_, hlook s⟩

end LooksAt

end Actions

namespace CompileJob

variable {σ : Type} [FileMap σ] {job : CompileJob} {s s' : σ} {path project state : String}
  {now : Clock} {frame : Frame}

theorem looksAt_loadProject (path : String) :
    LooksAt path (loadProject path : ExceptT CommandError (StateM σ) Project) := by
  refine (LooksAt.readText path).bind fun text => ?_
  cases text with
  | error _ => exact .throw path _
  | ok text =>
    dsimp only
    split
    · exact .pure path _
    · exact .throw path _

theorem looksAt_loadState (path : String) :
    LooksAt path (loadState path : ExceptT CommandError (StateM σ) CounterStore) := by
  refine (LooksAt.readText path).bind fun text => ?_
  cases text with
  | error failure => cases failure with
    | missing => exact .pure path _
    | unreadable => exact .throw path _
  | ok text =>
    dsimp only
    split
    · exact .pure path _
    · exact .throw path _

section Writing

variable {contents : ByteArray}

theorem onFiles_writeFile (s : σ) (path : String) (contents : ByteArray) :
    onFiles s (liftM (FileAccess.writeFile path contents : StateM σ Bool)) =
      (.ok (write s path contents).1, (write s path contents).2) := rfl

theorem onFiles_save_of_accepted (h : (write s path contents).1) :
    onFiles s (save path contents) = (.ok (), (write s path contents).2) := by
  rw [save, onFiles_bind, onFiles_writeFile]
  dsimp only
  rw [if_pos h]
  rfl

theorem onFiles_save_of_refused (h : (write s path contents).1 = false) :
    onFiles s (save path contents) = (.error (.io path), (write s path contents).2) := by
  rw [save, onFiles_bind, onFiles_writeFile]
  dsimp only
  rw [h, if_neg Bool.false_ne_true]
  rfl

theorem found_of_accepted (h : (write s path contents).1) :
    found (write s path contents).2 = Function.update (found s) path (.ok contents) := by
  rw [found_write, if_pos h]

theorem found_of_refused (h : (write s path contents).1 = false) :
    found (write s path contents).2 = found s := by
  rw [found_write, h, if_neg Bool.false_ne_true]

end Writing

theorem Makes.unique {frame' : Frame} (h : job.Makes now s state frame)
    (h' : job.Makes now s state frame') : frame = frame' := by
  obtain ⟨p, counters, hproject, hcounters, hframe⟩ := h
  obtain ⟨p', counters', hproject', hcounters', hframe'⟩ := h'
  rw [hproject] at hproject'
  rw [hcounters] at hcounters'
  cases hproject'
  cases hcounters'
  rw [hframe] at hframe'
  exact Except.ok.inj hframe'

def withFrame (job : CompileJob) (frame : Frame) (files : String → Except ReadFailure ByteArray) :
    String → Except ReadFailure ByteArray :=
  match job.output with
  | some path => Function.update files path (.ok frame.sent.toByteArray)
  | none => files

theorem found_writeFrame (h : (job.writeFrame s frame).1) :
    found (job.writeFrame s frame).2 = job.withFrame frame (found s) := by
  unfold withFrame
  cases houtput : job.output with
  | none => rw [writeFrame, houtput]
  | some path =>
    have hwrite : job.writeFrame s frame = write s path frame.sent.toByteArray := by
      rw [writeFrame, houtput]
    rw [hwrite] at h ⊢
    exact found_of_accepted h

/-- How a job can end, and what is found in the files then. -/
inductive Ends (job : CompileJob) (now : Clock) (s : σ) (state : String) :
    Except CommandError CompileReport → (String → Except ReadFailure ByteArray) → Prop
  | stopped (e : CommandError)
    (never : ∀ frame, job.Makes now s state frame → ¬ job.Accepts s state frame) :
    Ends job now s state (.error e) (found s)
  /-- The frame has been written where it should be, but its counters have not. -/
  | refused {frame : Frame} (made : job.Makes now s state frame)
    (never : ¬ job.Accepts s state frame) :
    Ends job now s state (.error (.io state)) (job.withFrame frame (found s))
  | done {frame : Frame} (made : job.Makes now s state frame) (accepts : job.Accepts s state frame) :
    Ends job now s state (.ok ⟨job.project, job.mode, frame⟩)
      (Function.update (job.withFrame frame (found s)) state
        (.ok frame.counters.toJson.pretty.toUTF8))

theorem Makes.ends_save (hmade : job.Makes now s state frame) (hframe : (job.writeFrame s frame).1) :
    let ending := onFiles (job.writeFrame s frame).2 (do
      save state frame.counters.toJson.pretty.toUTF8
      return ⟨job.project, job.mode, frame⟩)
    Ends job now s state ending.1 (found ending.2) := by
  have hfound := found_writeFrame hframe
  rw [onFiles_bind]
  cases hstate : (write (job.writeFrame s frame).2 state frame.counters.toJson.pretty.toUTF8).1 with
  | true =>
    have hdone := Ends.done hmade ⟨hframe, hstate⟩
    rw [← hfound, ← found_of_accepted hstate] at hdone
    rw [onFiles_save_of_accepted hstate]
    exact hdone
  | false =>
    have hnever : ¬ job.Accepts s state frame := fun haccepts =>
      Bool.false_ne_true (hstate.symm.trans haccepts.2)
    have hrefused := Ends.refused hmade hnever
    rw [← hfound, ← found_of_refused hstate] at hrefused
    rw [onFiles_save_of_refused hstate]
    exact hrefused

theorem Makes.ends_write (hmade : job.Makes now s state frame) :
    let ending := onFiles s (do
      if let some path := job.output then
        save path frame.sent.toByteArray
      save state frame.counters.toJson.pretty.toUTF8
      return ⟨job.project, job.mode, frame⟩)
    Ends job now s state ending.1 (found ending.2) := by
  cases houtput : job.output with
  | none =>
    have hwrite : job.writeFrame s frame = (true, s) := by rw [writeFrame, houtput]
    have hends := hmade.ends_save (by rw [hwrite])
    rw [hwrite] at hends
    exact hends
  | some path =>
    have hwrite : job.writeFrame s frame = write s path frame.sent.toByteArray := by
      rw [writeFrame, houtput]
    dsimp only
    rw [onFiles_bind]
    cases hdone : (write s path frame.sent.toByteArray).1 with
    | true =>
      have hends := hmade.ends_save (by rw [hwrite, hdone])
      rw [hwrite] at hends
      rw [onFiles_save_of_accepted hdone]
      exact hends
    | false =>
      have hnever : ∀ frame', job.Makes now s state frame' → ¬ job.Accepts s state frame' := by
        intro frame' hmakes haccepts
        obtain rfl := hmakes.unique hmade
        rw [Accepts, hwrite, hdone] at haccepts
        exact Bool.false_ne_true haccepts.1
      have hstopped := Ends.stopped (.io path) hnever
      rw [← found_of_refused hdone] at hstopped
      rw [onFiles_save_of_refused hdone]
      exact hstopped

theorem ends_onFiles_execute (hstate : job.state = some state) (now : Clock) (s : σ) :
    Ends job now s state (onFiles s (job.execute now)).1 (found (onFiles s (job.execute now)).2) := by
  unfold execute
  -- Both input files are looked at before anything is written, so the files are still those of `s`.
  obtain ⟨loaded, hproject⟩ := (looksAt_loadProject job.project).exists_onFiles_eq s
  rw [onFiles_bind, hproject]
  cases loaded with
  | error e =>
    refine .stopped e fun frame hmakes => ?_
    obtain ⟨p, counters, hp, -, -⟩ := hmakes
    rw [hproject] at hp
    cases hp
  | ok p =>
    obtain ⟨stored, hcounters⟩ := (looksAt_loadState state).exists_onFiles_eq s
    rw [hstate]
    dsimp only
    rw [onFiles_bind, hcounters]
    cases stored with
    | error e =>
      refine .stopped e fun frame hmakes => ?_
      obtain ⟨p, counters, -, hc, -⟩ := hmakes
      rw [hcounters] at hc
      cases hc
    | ok counters =>
      dsimp only
      split
      · next e hframe =>
        refine .stopped _ fun frame hmakes => ?_
        obtain ⟨p', counters', hp, hc, hmade⟩ := hmakes
        rw [hproject] at hp
        rw [hcounters] at hc
        cases hp
        cases hc
        exact absurd (hmade.symm.trans hframe) (by simp)
      · next frame hframe =>
        have hmade : job.Makes now s state frame := ⟨p, counters, hproject, hcounters, hframe⟩
        exact hmade.ends_write

theorem execute_ends {outcome : Except CommandError CompileReport} (hstate : job.state = some state)
    (h : onFiles s (job.execute now) = (outcome, s')) : Ends job now s state outcome (found s') := by
  have hends := ends_onFiles_execute hstate now s
  rwa [h] at hends

theorem onFiles_readText {text : String} (h : found s path = .ok text.toUTF8) :
    onFiles s (liftM (readText path : StateM σ _)) = (.ok (.ok text), s) := by
  have hread : onFiles s (liftM (FileAccess.readFile path : StateM σ _)) = (.ok (found s path), s) :=
    rfl
  have htext : String.fromUTF8? text.toUTF8 = some text := dif_pos text.isValidUTF8
  rw [readText, liftM_bind, onFiles_bind, hread, h]
  dsimp only
  rw [htext]
  rfl

theorem onFiles_loadState {counters : CounterStore}
    (h : found s path = .ok counters.toJson.pretty.toUTF8) :
    onFiles s (loadState path) = (.ok counters, s) := by
  rw [loadState, onFiles_bind, onFiles_readText h]
  dsimp only
  rw [CounterStore.parse_pretty]
  rfl

end CompileJob

end SerialFrame
