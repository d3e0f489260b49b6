import SerialFrame.Proofs.Command.Compile
import SerialFrame.Sample.Projects

/-!
# Counters are kept for delivered frames only

A job that fails leaves the state file as it was, and one that succeeds leaves the counters behind its
frame there. What one job leaves in the two input files is what the next one finds, so the frames of
the jobs that succeed are made as if there were no others (`replays_executeAll`).
-/

namespace SerialFrame.CompileJob

open FileMap

variable {σ : Type} [FileMap σ] {job : CompileJob} {jobs : List CompileJob} {s s' : σ}
  {path project state : String} {now : Clock} {frame : Frame} {e : CommandError}
  {report : CompileReport} {outcome : Except CommandError CompileReport}
  {files : String → Except ReadFailure ByteArray}

/-! ### One job -/

theorem withFrame_of_ne (h : job.output ≠ some path) (frame : Frame)
    (files : String → Except ReadFailure ByteArray) :
    job.withFrame frame files path = files path := by
  unfold withFrame
  cases houtput : job.output with
  | none => rfl
  | some output =>
    have hne : path ≠ output := fun heq => h (heq ▸ houtput)
    exact Function.update_of_ne hne _ files

theorem Ends.found_project (hon : job.On project state) (hne : project ≠ state)
    (h : Ends job now s state outcome files) : files project = found s project := by
  cases h with
  | stopped e => rfl
  | refused made => exact withFrame_of_ne hon.output_ne_project _ _
  | done made accepts =>
    rw [Function.update_of_ne hne]
    exact withFrame_of_ne hon.output_ne_project _ _

theorem Ends.found_state_of_error (hon : job.On project state)
    (h : Ends job now s state (.error e) files) : files state = found s state := by
  cases h with
  | stopped e => rfl
  | refused made => exact withFrame_of_ne hon.output_ne_state _ _

/-- A job that fails has changed nothing, or only the file with its frame. -/
theorem Ends.files_of_error (h : Ends job now s state (.error e) files) :
    files = found s ∨
      ∃ output frame, job.output = some output ∧ e = .io state ∧ job.Makes now s state frame ∧
        files = Function.update (found s) output (.ok frame.sent.toByteArray) := by
  cases h with
  | stopped e => exact .inl rfl
  | @refused frame made never =>
    cases houtput : job.output with
    | none => exact .inl (by rw [withFrame, houtput])
    | some output => exact .inr ⟨output, frame, rfl, rfl, made, by rw [withFrame, houtput]⟩

theorem Ends.makes_of_ok (h : Ends job now s state (.ok report) files) :
    job.Makes now s state report.frame := by
  cases h with
  | done made accepts => exact made

theorem Ends.exists_ok_iff (h : Ends job now s state outcome files) :
    (∃ report, outcome = .ok report) ↔
      ∃ frame, job.Makes now s state frame ∧ job.Accepts s state frame := by
  cases h with
  | stopped e never =>
    constructor
    · rintro ⟨report, heq⟩
      cases heq
    · rintro ⟨frame, hmakes, haccepts⟩
      exact absurd haccepts (never frame hmakes)
  | refused made never =>
    constructor
    · rintro ⟨report, heq⟩
      cases heq
    · rintro ⟨frame, hmakes, haccepts⟩
      exact absurd (made.unique hmakes ▸ haccepts) never
  | done made accepts => exact ⟨fun _ => ⟨_, made, accepts⟩, fun _ => ⟨_, rfl⟩⟩

theorem Ends.loadState_of_ok (h : Ends job now s state (.ok report) (found s')) :
    onFiles s' (loadState state) = (.ok report.frame.counters, s') := by
  generalize hfiles : found s' = files at h
  cases h with
  | done made accepts =>
    refine onFiles_loadState ?_
    rw [hfiles, Function.update_self]

/-! ### Jobs in order -/

theorem Replays.congr {made : List (CompileJob × Frame)} (h : Replays now s' project state made)
    (hproject : found s' project = found s project) (hstate : found s' state = found s state) :
    Replays now s project state made := by
  refine h.imp_right ?_
  rintro ⟨p, counters, hp, hcounters, hframes⟩
  refine ⟨p, counters, ?_, ?_, hframes⟩
  · rw [(looksAt_loadProject project).congr hproject.symm, hp]
  · rw [(looksAt_loadState state).congr hstate.symm, hcounters]

theorem Makes.replays_cons {made : List (CompileJob × Frame)} (hon : job.On project state)
    (hmakes : job.Makes now s state frame) (hproject : found s' project = found s project)
    (hstate : onFiles s' (loadState state) = (.ok frame.counters, s'))
    (h : Replays now s' project state made) : Replays now s project state ((job, frame) :: made) := by
  obtain ⟨p, counters, hp, hcounters, hframe⟩ := hmakes
  rw [hon.project_eq] at hp
  refine .inr ⟨p, counters, hp, hcounters, ?_⟩
  have hothers : frames now p frame.counters (made.map (·.1)) = .ok (made.map (·.2)) := by
    rcases h with rfl | ⟨p', counters', hp', hcounters', hframes⟩
    · rfl
    · rw [(looksAt_loadProject project).congr hproject, hp] at hp'
      rw [hstate] at hcounters'
      cases hp'
      cases hcounters'
      exact hframes
  rw [List.map_cons, List.map_cons, frames, hframe]
  change (frames now p frame.counters (made.map (·.1)) >>= _) = _
  rw [hothers]
  rfl

theorem replays_executeAll (hne : project ≠ state) (hon : ∀ job ∈ jobs, job.On project state)
    (now : Clock) (s : σ) :
    Replays now s project state (delivered (executeAll now jobs s).1) := by
  induction jobs generalizing s with
  | nil => exact .inl rfl
  | cons job jobs ih =>
    have hjob : job.On project state := hon job List.mem_cons_self
    obtain ⟨outcome, s', hfirst⟩ : ∃ outcome s', onFiles s (job.execute now) = (outcome, s') :=
      ⟨_, _, rfl⟩
    have hends := execute_ends hjob.state_eq hfirst
    have hproject := hends.found_project hjob hne
    -- The other jobs start from what the first one leaves, and only the state file can differ.
    have hothers := ih (fun job' h => hon job' (List.mem_cons_of_mem _ h)) s'
    have hall : (executeAll now (job :: jobs) s).1 = (job, outcome) :: (executeAll now jobs s').1 := by
      rw [executeAll, hfirst]
    rw [hall]
    cases outcome with
    | error e => exact hothers.congr hproject (hends.found_state_of_error hjob)
    | ok report =>
      exact hends.makes_of_ok.replays_cons hjob hproject hends.loadState_of_ok hothers

/-- A job succeeds if a frame can be made and no write is refused. Counters are saved by the jobs that
succeed and by no others: the only thing that a failing job can have changed is the file of a frame
whose counters could not be saved. -/
theorem execute_commits {σ : Type} [FileMap σ] {project state : String} (hne : project ≠ state)
    (now : Clock) :
    (∀ (job : CompileJob) (s : σ), job.On project state →
      ((∃ report, (onFiles s (job.execute now)).1 = .ok report) ↔
        ∃ frame, job.Makes now s state frame ∧ job.Accepts s state frame)) ∧
    (∀ (job : CompileJob) (s s' : σ) (report : CompileReport), job.On project state →
      onFiles s (job.execute now) = (.ok report, s') →
      job.Makes now s state report.frame ∧
        onFiles s' (loadState state) = (.ok report.frame.counters, s')) ∧
    (∀ (job : CompileJob) (s s' : σ) (e : CommandError), job.On project state →
      onFiles s (job.execute now) = (.error e, s') →
      found s' state = found s state ∧
        (found s' = found s ∨
          ∃ output frame, job.output = some output ∧ e = .io state ∧
            job.Makes now s state frame ∧
            found s' = Function.update (found s) output (.ok frame.sent.toByteArray))) ∧
    ∀ (jobs : List CompileJob) (s : σ), (∀ job ∈ jobs, job.On project state) →
      Replays now s project state (delivered (executeAll now jobs s).1) := by
  refine ⟨?_, ?_, ?_, ?_⟩
  · intro job s hon
    exact (ends_onFiles_execute hon.state_eq now s).exists_ok_iff
  · intro job s s' report hon h
    have hends := execute_ends hon.state_eq h
    exact ⟨hends.makes_of_ok, hends.loadState_of_ok⟩
  · intro job s s' e hon h
    have hends := execute_ends hon.state_eq h
    exact ⟨hends.found_state_of_error hon, hends.files_of_error⟩
  · intro jobs s hon
    exact replays_executeAll hne hon now s

open Sample in
/-- The counters of the first frame cannot be saved, so the next one sends the same value. -/
theorem execute_commits_refused :
    let text := "[[\x7b\"id\":\"\",\"kind\":1,\"tokenId\":\"n\"\x7d],\x7b\"n\":\x7b\"type\":3,\"bytes\":1\x7d\x7d]"
    let disk : Disk :=
      { found := fun path => if path = "p" then .ok text.toUTF8 else .error .missing
        refusals := [false, true] }
    let silent : CompileJob := { project := "p", state := some "s" }
    let loud : CompileJob := { silent with output := some "o" }
    let frame : Frame := ⟨[0x00], [0x00], [], [], ⟨.ofList [(⟨"n"⟩, [0x01])]⟩⟩
    let first := onFiles disk (loud.execute fixedClock)
    let second := onFiles first.2 (silent.execute fixedClock)
    first.1 = .error (.io "s") ∧ found first.2 "s" = .error .missing ∧
      onFiles second.2 (loadState "s") = (.ok frame.counters, second.2) ∧
      Replays fixedClock disk "p" "s" [(silent, frame)] := by
  intro text disk silent loud frame first second
  have hsilent : silent.On "p" "s" := ⟨rfl, rfl, by decide, by decide⟩
  have hloud : loud.On "p" "s" := ⟨rfl, rfl, by decide, by decide⟩
  have hjobs : ∀ job ∈ [loud, silent], job.On "p" "s" := by
    intro job hjob
    rcases List.mem_cons.mp hjob with rfl | hjob
    · exact hloud
    · exact List.mem_singleton.mp hjob ▸ hsilent
  have hfirst : first.1 = .error (.io "s") := by decide +kernel
  have hsecond : second.1 = .ok ⟨"p", .hex, frame⟩ := by decide +kernel
  have hfirst' : first = (.error (.io "s"), first.2) := by rw [← hfirst]
  have hsecond' : second = (.ok ⟨"p", .hex, frame⟩, second.2) := by rw [← hsecond]
  obtain ⟨-, hsuccess, hfailure, hreplays⟩ :=
    @execute_commits Disk _ "p" "s" (by decide) fixedClock
  have hkept : found first.2 "s" = found disk "s" := (hfailure loud disk _ _ hloud hfirst').1
  have hmissing : found disk "s" = .error .missing := by decide +kernel
  have hsaved := (hsuccess silent first.2 second.2 _ hsilent hsecond').2
  have hmade : delivered (executeAll fixedClock [loud, silent] disk).1 = [(silent, frame)] := by
    change delivered [(loud, first.1), (silent, second.1)] = _
    rw [hfirst, hsecond]
    rfl
  exact ⟨hfirst, hkept.trans hmissing, hsaved, hmade ▸ hreplays [loud, silent] disk hjobs⟩

end SerialFrame.CompileJob
