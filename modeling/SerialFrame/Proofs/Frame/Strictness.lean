import SerialFrame.Proofs.Frame.Run
import SerialFrame.Sample.Projects

/-!
# Strict and lenient compiles

A strict and a lenient run over the same leaves go in lockstep until the first warning: there the
strict one stops with that warning, while the lenient one goes on and keeps it as the first of its
list (`Build.Outcome.Lockstep`). `strict_lenient_agree` reads off what this means for frames.
-/

namespace SerialFrame

namespace Build

namespace Outcome

/-- Of work started in `a` that ends as `lenient`, the strict form ends as `strict`: in the same way
if no warning was raised, and else with the first of them. -/
def Lockstep (a : Assembly) (lenient strict : Outcome) : Prop :=
  ∃ raised, lenient.assembly.warnings = a.warnings ++ raised ∧
    match raised with
    | [] => strict = lenient
    | w :: _ => ∃ b, strict = .error (.degraded w) b

end Outcome

open SerialFrame.Build.Outcome

theorem lockstep_bind {l s l' s' : Build Unit} {a : Assembly} (h : Lockstep a (l a) (s a))
    (h' : ∀ b, Lockstep b (l' b) (s' b)) :
    Lockstep a ((l >>= fun _ => l') a) ((s >>= fun _ => s') a) := by
  rw [run_bind, run_bind]
  obtain ⟨raised, hraised, hs⟩ := h
  cases hl : l a with
  | error e b =>
    rw [hl] at hraised hs
    refine ⟨raised, hraised, ?_⟩
    cases raised with
    | nil => simp only [hs]
    | cons w rest =>
      obtain ⟨x, hs⟩ := hs
      exact ⟨x, by rw [hs]⟩
  | ok u b =>
    rw [hl] at hraised hs
    obtain ⟨later, hlater, hs'⟩ := h' b
    change b.warnings = a.warnings ++ raised at hraised
    refine ⟨raised ++ later, ?_, ?_⟩
    · rw [← List.append_assoc, ← hraised]
      exact hlater
    cases raised with
    | nil =>
      rw [hs]
      exact hs'
    | cons w rest =>
      obtain ⟨x, hs⟩ := hs
      exact ⟨x, by rw [hs]⟩

end Build

namespace Compiler

open Build.Outcome

variable {c : Compiler} {tokens : TokenTable} {a b : Assembly}

def withStrict (c : Compiler) (strict : Bool) : Compiler :=
  { c with options := { c.options with strict } }

theorem sameLimits_withStrict (strict : Bool) : SameLimits c (c.withStrict strict) :=
  ⟨rfl, rfl, rfl⟩

theorem placeLeaf_lenient (leaf : Leaf) :
    (c.withStrict false).placeLeaf leaf a = match c.edit a leaf with
      | .error e => .error e a
      | .ok edit => .ok () (c.after a leaf edit) := by
  rw [placeLeaf_eq, outcome, effect, (sameLimits_withStrict false).edit]
  cases c.edit a leaf with
  | error e => rfl
  | ok edit =>
    simp only [Except.map, (sameLimits_withStrict false).after, judge]
    split <;> rfl

theorem lockstep_placeLeaf (leaf : Leaf) (a : Assembly) :
    Lockstep a ((c.withStrict false).placeLeaf leaf a) ((c.withStrict true).placeLeaf leaf a) := by
  rw [placeLeaf_lenient, placeLeaf_eq, outcome, effect, (sameLimits_withStrict true).edit]
  cases c.edit a leaf with
  | error e => exact ⟨[], (List.append_nil _).symm, rfl⟩
  | ok edit =>
    refine ⟨c.warnings a leaf, rfl, ?_⟩
    simp only [Except.map, (sameLimits_withStrict true).after,
      (sameLimits_withStrict true).warnings, judge]
    cases c.warnings a leaf with
    | nil => rfl
    | cons w rest => exact ⟨_, rfl⟩

theorem lockstep_run (leaves : List Leaf) (a : Assembly) :
    Lockstep a (leaves.forM (c.withStrict false).placeLeaf a)
      (leaves.forM (c.withStrict true).placeLeaf a) := by
  induction leaves generalizing a with
  | nil => exact ⟨[], (List.append_nil _).symm, rfl⟩
  | cons leaf rest ih => exact Build.lockstep_bind (lockstep_placeLeaf leaf a) ih

theorem run_lenient_error {leaves : List Leaf} {e : FrameError}
    (h : leaves.forM (c.withStrict false).placeLeaf a = .error e b) :
    ∃ id name, e = .unsupportedAlgorithm id name := by
  induction leaves generalizing a with
  | nil => cases h
  | cons leaf rest ih =>
    rw [Build.run_forM_cons, placeLeaf_lenient] at h
    cases hedit : c.edit a leaf with
    | ok edit =>
      rw [hedit] at h
      exact ih h
    | error e' =>
      rw [hedit] at h
      injection h with he
      obtain ⟨id, config, -, -, he'⟩ := Leaf.refusal?_eq_some_iff.mp (edit_eq_error_iff.mp hedit)
      exact ⟨id, config.algorithm, he.symm.trans he'⟩

/-- A strict compile ends as the lenient run does, unless that has raised a warning. -/
theorem compile_strict (segments : List Segment) (store : CounterStore) :
    (c.withStrict true).compile segments tokens store =
      match (c.leaves tokens segments).forM (c.withStrict false).placeLeaf { counters := store } with
      | .ok _ b =>
        match b.warnings with
        | [] => .ok (c.finish b)
        | w :: _ => .error (.degraded w)
      | .error e b => .error ((b.warnings.head?.map .degraded).getD e) := by
  obtain ⟨raised, hraised, hstrict⟩ :=
    lockstep_run (c := c) (c.leaves tokens segments) { counters := store }
  rw [List.nil_append] at hraised
  cases hrun : (c.leaves tokens segments).forM (c.withStrict false).placeLeaf
      { counters := store } with
  | ok u b =>
    rw [hrun] at hraised hstrict
    change b.warnings = raised at hraised
    dsimp only
    cases raised with
    | nil =>
      rw [hraised]
      exact compile_eq_ok_iff.mpr ⟨b, hstrict, rfl⟩
    | cons w rest =>
      obtain ⟨x, hx⟩ := hstrict
      rw [hraised]
      exact compile_eq_error_iff.mpr ⟨x, hx⟩
  | error e b =>
    rw [hrun] at hraised hstrict
    change b.warnings = raised at hraised
    dsimp only
    cases raised with
    | nil =>
      rw [hraised]
      exact compile_eq_error_iff.mpr ⟨b, hstrict⟩
    | cons w rest =>
      obtain ⟨x, hx⟩ := hstrict
      rw [hraised]
      exact compile_eq_error_iff.mpr ⟨x, hx⟩

theorem withStrict_self {strict : Bool} (h : c.options.strict = strict) : c.withStrict strict = c := by
  subst h
  rfl

theorem compile_strict_eq_ok_iff {segments : List Segment} {store : CounterStore} {frame : Frame} :
    (c.withStrict true).compile segments tokens store = .ok frame ↔
      (c.withStrict false).compile segments tokens store = .ok frame ∧ frame.warnings = [] := by
  rw [compile_strict, compile_eq_ok_iff (c := c.withStrict false)]
  change _ ↔ (∃ b, (c.leaves tokens segments).forM (c.withStrict false).placeLeaf _ = .ok () b ∧ _) ∧ _
  cases (c.leaves tokens segments).forM (c.withStrict false).placeLeaf { counters := store } with
  | error e b => simp
  | ok u b =>
    have hfinish : (c.withStrict false).finish b = c.finish b := rfl
    have hwarnings : (c.finish b).warnings = b.warnings := rfl
    simp only [EStateM.Result.ok.injEq, true_and, exists_eq_left', hfinish]
    constructor
    · intro h
      cases hw : b.warnings with
      | cons w rest =>
        rw [hw] at h
        cases h
      | nil =>
        rw [hw] at h
        obtain rfl := Except.ok.inj h
        exact ⟨rfl, hw⟩
    · rintro ⟨rfl, hw⟩
      rw [← hwarnings, hw]

/-- Strictness only decides what becomes of warnings. A strict compile makes the frame of the
lenient one if that has no warning, and refuses it with its first warning otherwise. It fails where
the lenient one fails: with the same error if no warning was raised before, or else with the first
that was. A lenient compile itself fails with unsupported algorithms only. -/
theorem strict_lenient_agree (c : Compiler) (segments : List Segment) (tokens : TokenTable)
    (store : CounterStore) :
    let strict := (c.withStrict true).compile segments tokens store
    let lenient := (c.withStrict false).compile segments tokens store
    (∀ frame, strict = .ok frame ↔ lenient = .ok frame ∧ frame.warnings = []) ∧
    (∀ frame w rest, lenient = .ok frame → frame.warnings = w :: rest →
      strict = .error (.degraded w)) ∧
    (∀ id name, strict = .error (.unsupportedAlgorithm id name) →
      lenient = .error (.unsupportedAlgorithm id name)) ∧
    (∀ e, lenient = .error e → ∃ b,
      (c.withStrict false).walk tokens (tokens.containers.length + 1) segments
        { counters := store } = .error e b ∧
      strict = .error ((b.warnings.head?.map .degraded).getD e)) ∧
    (∀ w, lenient ≠ .error (.degraded w)) ∧ ∀ defect, lenient ≠ .error (.hex defect) := by
  intro strict lenient
  have hstrict : strict = _ := compile_strict segments store
  cases hrun : (c.leaves tokens segments).forM (c.withStrict false).placeLeaf
      { counters := store } with
  | ok u b =>
    have hlenient : lenient = .ok (c.finish b) := compile_eq_ok_iff.mpr ⟨b, hrun, rfl⟩
    have hwarnings : (c.finish b).warnings = b.warnings := rfl
    rw [hrun] at hstrict
    dsimp only at hstrict
    cases hw : b.warnings with
    | nil =>
      rw [hw] at hstrict hwarnings
      rw [hstrict, hlenient]
      refine ⟨fun frame => ⟨fun h => ⟨h, ?_⟩, fun h => h.1⟩, fun frame w rest h hframe => ?_, by simp,
        by simp, by simp, by simp⟩
      · rw [← Except.ok.inj h]
        exact hwarnings
      · rw [← Except.ok.inj h, hwarnings] at hframe
        cases hframe
    | cons w rest =>
      rw [hw] at hstrict hwarnings
      rw [hstrict, hlenient]
      refine ⟨fun frame => ⟨by simp, fun ⟨h, hframe⟩ => ?_⟩, fun frame w' rest' h hframe => ?_,
        by simp, by simp, by simp, by simp⟩
      · rw [← Except.ok.inj h, hwarnings] at hframe
        cases hframe
      · rw [← Except.ok.inj h, hwarnings] at hframe
        rw [(List.cons.inj hframe).1]
  | error e b =>
    obtain ⟨id, name, rfl⟩ := run_lenient_error hrun
    have hlenient : lenient = .error (.unsupportedAlgorithm id name) :=
      compile_eq_error_iff.mpr ⟨b, hrun⟩
    have hwalk : (c.withStrict false).walk tokens (tokens.containers.length + 1) segments
        { counters := store } = .error (.unsupportedAlgorithm id name) b :=
      (walk_start _ _).trans hrun
    rw [hrun] at hstrict
    dsimp only at hstrict
    rw [hstrict, hlenient]
    refine ⟨by simp, by simp, fun id' name' h => ?_, fun e he => ?_, by simp, by simp⟩
    · cases hw : b.warnings with
      | nil =>
        rw [hw] at h
        exact h
      | cons w rest =>
        rw [hw] at h
        cases h
    · rw [← Except.error.inj he]
      exact ⟨b, hwalk, rfl⟩

open Sample in
/-- Of two warnings of the lenient compile, the first is what the strict one fails with. -/
theorem strict_lenient_agree_first_warning :
    let segments := [literal "s1" "0A 0", reference "s2" "gone"]
    let w : Warning := .truncatedNibble (.literal ⟨"s1"⟩) '0'
    ∃ frame, (withStrict {} false).compile segments .empty .empty = .ok frame ∧
      frame.warnings = [w, .danglingReference ⟨"s2"⟩ ⟨"gone"⟩] ∧
      (withStrict {} true).compile segments .empty .empty = .error (.degraded w) := by
  intro segments w
  let frame : Frame :=
    { sent := [0x0A]
      raw := [0x0A]
      checksums := []
      warnings := [w, .danglingReference ⟨"s2"⟩ ⟨"gone"⟩]
      counters := .empty }
  have h : (withStrict {} false).compile segments .empty .empty = .ok frame := by decide +kernel
  have hstrict := (strict_lenient_agree {} segments .empty .empty).2.1 frame w _ h rfl
  exact ⟨frame, h, rfl, hstrict⟩

end Compiler

end SerialFrame
