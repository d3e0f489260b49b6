import SerialFrame.Proofs.Frame.Expansion

/-!
# Runs

A run places leaves one after another. `run_invariant` packages the induction: what holds of the
assembly at the start and is kept by every edit holds at the end. `compile_eq_ok_iff` says which
runs make a frame, and `compile_eq_error_iff` which make none.
-/

namespace SerialFrame

theorem split_concat {α : Type} {xs before after : List α} {x r : α}
    (h : xs ++ [x] = before ++ r :: after) :
    (before = xs ∧ r = x ∧ after = []) ∨ ∃ init, after = init ++ [x] ∧ xs = before ++ r :: init := by
  rcases List.eq_nil_or_concat after with rfl | ⟨init, last, rfl⟩
  · obtain ⟨rfl, hlast⟩ := List.append_inj' h rfl
    exact .inl ⟨rfl, (List.cons.inj hlast).1.symm, rfl⟩
  · rw [List.concat_eq_append, ← List.cons_append, ← List.append_assoc] at h
    obtain ⟨rfl, hlast⟩ := List.append_inj' h rfl
    exact .inr ⟨init, by rw [List.concat_eq_append, (List.cons.inj hlast).1], rfl⟩

namespace Leaf

variable {tokens : TokenTable} {limit : Nat}

/-- What a leaf is of: the tokens among the leaves stand in the table. -/
def FromTable (tokens : TokenTable) : Leaf → Prop
  | .text (.flag id) hex => ∃ key t, tokens.get? key = some t ∧ t.id = id ∧ t.kind = .flag hex
  | .text (.literal _) _ => True
  | .timestamp id config =>
    ∃ key t, tokens.get? key = some t ∧ t.id = id ∧ t.kind = .timestamp config
  | .counter id config => ∃ key t, tokens.get? key = some t ∧ t.id = id ∧ t.kind = .counter config
  | .checksum id config =>
    ∃ key t, tokens.get? key = some t ∧ t.id = id ∧ t.kind = .checksum config
  | .unknown id => ∃ key t, tokens.get? key = some t ∧ t.id = id ∧ t.kind = .unknown
  | .dangling _ id => tokens.get? id = none
  | .recursive id | .tooDeep id =>
    ∃ key t, tokens.get? key = some t ∧ t.id = id ∧ t.children?.isSome

theorem fromTable_ofSegment {inside : List TokenId → List Segment → List Leaf}
    (hinside : ∀ expanding segments, ∀ leaf ∈ inside expanding segments, leaf.FromTable tokens)
    {expanding : List TokenId} {segment : Segment} {leaf : Leaf}
    (h : leaf ∈ ofSegment tokens limit inside expanding segment) : leaf.FromTable tokens := by
  unfold ofSegment at h
  split at h
  · rw [List.mem_singleton.mp h]
    trivial
  · next id _ =>
    split at h
    · next t ht =>
      unfold ofToken at h
      split at h
      case h_5 children hkind =>
        have hchildren : t.children?.isSome := by simp [Token.children?, hkind]
        split at h
        · rw [List.mem_singleton.mp h]
          exact ⟨id, t, ht, rfl, hchildren⟩
        · split at h
          · rw [List.mem_singleton.mp h]
            exact ⟨id, t, ht, rfl, hchildren⟩
          · exact hinside _ _ leaf h
      all_goals
        next hkind =>
        rw [List.mem_singleton.mp h]
        exact ⟨id, t, ht, rfl, hkind⟩
    · next hnone =>
      rw [List.mem_singleton.mp h]
      exact hnone

theorem fromTable_ofSegments (depth : Nat) (expanding : List TokenId) (segments : List Segment) :
    ∀ leaf ∈ ofSegments tokens limit depth expanding segments, leaf.FromTable tokens := by
  induction depth generalizing expanding segments with
  | zero => exact fun leaf h => absurd h List.not_mem_nil
  | succ depth ih =>
    intro leaf h
    obtain ⟨segment, -, h⟩ := List.mem_flatMap.mp h
    exact fromTable_ofSegment ih h

theorem refusal?_eq_some_iff {leaf : Leaf} {e : FrameError} :
    leaf.refusal? = some e ↔ ∃ id config, leaf = .checksum id config ∧
      Checksum.Algorithm.ofName? config.algorithm = none ∧
      e = .unsupportedAlgorithm id config.algorithm := by
  cases leaf with
  | checksum id config =>
    cases halgorithm : Checksum.Algorithm.ofName? config.algorithm with
    | none => simp [refusal?, halgorithm, eq_comm]
    | some algorithm => simp [refusal?, halgorithm]
  | text | timestamp | counter | unknown | dangling | recursive | tooDeep => simp [refusal?]

end Leaf

namespace Compiler

variable {c : Compiler} {tokens : TokenTable} {a b : Assembly}

/-- The compilers differ at most in mode and strictness. -/
structure SameLimits (c c' : Compiler) : Prop where
  clock : c'.clock = c.clock
  depth : c'.options.maxContainerDepth = c.options.maxContainerDepth
  width : c'.options.maxCounterWidth = c.options.maxCounterWidth

namespace SameLimits

variable {c' : Compiler}

theorem leaves (h : SameLimits c c') (segments : List Segment) :
    c'.leaves tokens segments = c.leaves tokens segments := by
  simp only [Compiler.leaves, h.depth]

theorem edit (h : SameLimits c c') (leaf : Leaf) : c'.edit a leaf = c.edit a leaf := by
  cases leaf <;> simp only [Compiler.edit, payload, payload?, tick?, h.clock, h.width]

theorem warnings (h : SameLimits c c') (leaf : Leaf) : c'.warnings a leaf = c.warnings a leaf := by
  cases leaf <;> simp only [Compiler.warnings, h.depth, h.width]

theorem after (h : SameLimits c c') (leaf : Leaf) (edit : Edit) :
    c'.after a leaf edit = c.after a leaf edit := by
  have hadvance : c'.advance a.counters leaf = c.advance a.counters leaf := by
    cases leaf <;> simp only [advance, tick?, h.width]
  simp only [Compiler.after, h.warnings, hadvance]

end SameLimits

theorem edit_cases {leaf : Leaf} {edit : Edit} (h : c.edit a leaf = .ok edit) :
    (leaf.checksum? = none ∧ edit = .append (c.payload a.counters leaf)) ∨
    ∃ id config splice, leaf = .checksum id config ∧
      Checksum.Splice.of? config a.buffer = some splice ∧ edit = .insert (splice.placement id) := by
  cases leaf with
  | checksum id config =>
    simp only [Compiler.edit] at h
    cases hsplice : Checksum.Splice.of? config a.buffer with
    | none =>
      rw [hsplice] at h
      cases h
    | some splice =>
      rw [hsplice] at h
      injection h with h
      exact .inr ⟨id, config, splice, rfl, hsplice, h.symm⟩
  | text | timestamp | counter | unknown | dangling | recursive | tooDeep =>
    injection h with h
    exact .inl ⟨rfl, h.symm⟩

theorem edit_eq_error_iff {leaf : Leaf} {e : FrameError} :
    c.edit a leaf = .error e ↔ leaf.refusal? = some e := by
  cases leaf with
  | checksum id config =>
    cases halgorithm : Checksum.Algorithm.ofName? config.algorithm <;>
      simp [edit, Leaf.refusal?, Checksum.Splice.of?, halgorithm]
  | text | timestamp | counter | unknown | dangling | recursive | tooDeep =>
    simp [edit, Leaf.refusal?]

theorem placeLeaf_eq_ok_iff {leaf : Leaf} :
    c.placeLeaf leaf a = .ok () b ↔
      ∃ edit, c.edit a leaf = .ok edit ∧ b = c.after a leaf edit ∧
        (c.options.strict = true → c.warnings a leaf = []) := by
  rw [placeLeaf_eq, outcome, effect]
  cases c.edit a leaf with
  | error e => simp [Except.map]
  | ok edit =>
    simp only [Except.map, Except.ok.injEq, exists_eq_left', Build.Outcome.judge]
    cases hw : c.warnings a leaf with
    | nil =>
      simp only [EStateM.Result.ok.injEq, true_and, implies_true, and_true]
      exact eq_comm
    | cons w ws =>
      by_cases hs : c.options.strict = true
      · simp [hs]
      · simp only [hs, Bool.false_eq_true, if_false, EStateM.Result.ok.injEq, true_and,
          false_implies, and_true]
        exact eq_comm

theorem put_eq_ok_iff {leaf : Leaf} : c.put a leaf = .ok b ↔ c.placeLeaf leaf a = .ok () b := by
  rw [put]
  cases c.placeLeaf leaf a <;> simp

theorem run_cons_eq_ok_iff {leaf : Leaf} {rest : List Leaf} :
    (leaf :: rest).forM c.placeLeaf a = .ok () b ↔
      ∃ x, c.placeLeaf leaf a = .ok () x ∧ rest.forM c.placeLeaf x = .ok () b := by
  rw [Build.run_forM_cons]
  cases c.placeLeaf leaf a <;> simp

/-- What holds at the start and is kept by every edit holds at the end of a run. -/
theorem run_invariant {P : List Leaf → Assembly → Prop} {leaves : List Leaf}
    (hrun : leaves.forM c.placeLeaf a = .ok () b) (start : P [] a)
    (step : ∀ done leaf a edit, leaf ∈ leaves → P done a → c.edit a leaf = .ok edit →
      P (done ++ [leaf]) (c.after a leaf edit)) :
    P leaves b := by
  -- The induction is on the leaves still to come; `done` are those placed already.
  have go : ∀ (rest done : List Leaf) (a : Assembly), (∀ leaf ∈ rest, leaf ∈ leaves) →
      P done a → rest.forM c.placeLeaf a = .ok () b → P (done ++ rest) b := by
    intro rest
    induction rest with
    | nil =>
      intro done a _ hP h
      injection h with _ h
      rw [List.append_nil, ← h]
      exact hP
    | cons leaf rest ih =>
      intro done a hmem hP h
      obtain ⟨x, hplace, h⟩ := run_cons_eq_ok_iff.mp h
      obtain ⟨edit, hedit, rfl, -⟩ := placeLeaf_eq_ok_iff.mp hplace
      have hstep := step done leaf a edit (hmem leaf List.mem_cons_self) hP hedit
      have hrest := ih (done ++ [leaf]) _ (fun l hl => hmem l (List.mem_cons_of_mem _ hl)) hstep h
      simpa using hrest
  exact go leaves [] a (fun _ h => h) start hrun

theorem compile_eq_ok_iff {segments : List Segment} {store : CounterStore} {frame : Frame} :
    c.compile segments tokens store = .ok frame ↔
      ∃ b, (c.leaves tokens segments).forM c.placeLeaf { counters := store } = .ok () b ∧
        frame = c.finish b := by
  unfold compile
  rw [walk_start]
  cases (c.leaves tokens segments).forM c.placeLeaf { counters := store } <;>
    simp [eq_comm]

theorem compile_eq_error_iff {segments : List Segment} {store : CounterStore} {e : FrameError} :
    c.compile segments tokens store = .error e ↔
      ∃ b, (c.leaves tokens segments).forM c.placeLeaf { counters := store } = .error e b := by
  unfold compile
  rw [walk_start]
  cases (c.leaves tokens segments).forM c.placeLeaf { counters := store } <;> simp

end Compiler

end SerialFrame
