import SerialFrame.Frame.Walk
import SerialFrame.Proofs.Frame.Depth
import SerialFrame.Proofs.Frame.Expansion
import SerialFrame.Sample.Projects

/-!
# Walks end

`walk_terminates`: whatever the containers of a table refer to, the step-by-step walk ends, and with
what the compile gives. Each container that is opened leaves one less to be opened, which carries the
induction of `reaches_segments`; `OpenDistinct` is what every step keeps of the open containers.
-/

namespace SerialFrame

def Walk.after (rest : List Task) : Build.Outcome → Walk
  | .ok _ a => { assembly := a, todo := rest }
  | .error e a => { assembly := a, todo := rest, failure := some e }

theorem Build.Blind.expanding_assembly {m : Build Unit} (hm : m.Blind) (a : Assembly) :
    (Outcome.assembly (m a)).expanding = a.expanding := by
  rw [← hm.reopen_self a]
  cases m a <;> rfl

namespace Compiler

variable {c : Compiler} {tokens : TokenTable} {expanding : List TokenId} {segment : Segment}
  {id : TokenId} {children : Template} {w w' w'' : Walk}

/-! ### What a segment opens -/

theorem opened?_eq_some_iff :
    c.opened? tokens expanding segment = some (id, children) ↔
      ∃ key t, segment.kind = .token key ∧ tokens.get? key = some t ∧ t.kind = .container children ∧
        t.id = id ∧ id ∉ expanding ∧ expanding.length < c.options.maxContainerDepth := by
  simp only [opened?, Option.bind_eq_bind, Option.bind_eq_some_iff, Segment.tokenId?_eq_some_iff,
    TokenTable.children?_eq_some_iff, Option.ite_none_left_eq_some, Option.some.injEq, not_or,
    Nat.not_le, Prod.mk.injEq]
  constructor
  · rintro ⟨t, ⟨key, hsegment, hget⟩, children, hkind, ⟨hnot, hlength⟩, rfl, rfl⟩
    exact ⟨key, t, hsegment, hget, hkind, rfl, hnot, hlength⟩
  · rintro ⟨key, t, hsegment, hget, hkind, rfl, hnot, hlength⟩
    exact ⟨t, ⟨key, hsegment, hget⟩, children, hkind, ⟨hnot, hlength⟩, rfl, rfl⟩

theorem ofSegment_of_opened {inside : List TokenId → List Segment → List Leaf}
    (h : c.opened? tokens expanding segment = some (id, children)) :
    Leaf.ofSegment tokens c.options.maxContainerDepth inside expanding segment =
      inside (expanding ++ [id]) children.segments := by
  obtain ⟨key, t, hsegment, hget, hkind, rfl, hnot, hlength⟩ := opened?_eq_some_iff.mp h
  simp only [Leaf.ofSegment, hsegment, hget, Leaf.ofToken, hkind]
  rw [if_neg hnot, if_neg (by omega)]

theorem ofSegment_of_not_opened {inside inside' : List TokenId → List Segment → List Leaf}
    (h : c.opened? tokens expanding segment = none) :
    Leaf.ofSegment tokens c.options.maxContainerDepth inside expanding segment =
      Leaf.ofSegment tokens c.options.maxContainerDepth inside' expanding segment := by
  unfold Leaf.ofSegment
  cases hsegment : segment.kind with
  | literal content => rfl
  | token key =>
    dsimp only
    cases hget : tokens.get? key with
    | none => rfl
    | some t =>
      dsimp only
      unfold Leaf.ofToken
      cases hkind : t.kind with
      | checksum | flag | timestamp | counter | unknown => rfl
      | container children =>
        dsimp only
        by_cases hopen : t.id ∈ expanding
        · rw [if_pos hopen, if_pos hopen]
        by_cases hdeep : c.options.maxContainerDepth ≤ expanding.length
        · rw [if_neg hopen, if_neg hopen, if_pos hdeep, if_pos hdeep]
        have hsome := opened?_eq_some_iff.mpr
          ⟨key, t, hsegment, hget, hkind, rfl, hopen, Nat.not_le.mp hdeep⟩
        rw [h] at hsome
        cases hsome

def segmentOutcome (c : Compiler) (tokens : TokenTable) (a : Assembly) (segment : Segment) :
    Build.Outcome :=
  (Leaf.ofSegment tokens c.options.maxContainerDepth
    (Leaf.under tokens c.options.maxContainerDepth) a.expanding segment).forM c.placeLeaf a

def segmentsOutcome (c : Compiler) (tokens : TokenTable) (a : Assembly) (segments : List Segment) :
    Build.Outcome :=
  (Leaf.under tokens c.options.maxContainerDepth a.expanding segments).forM c.placeLeaf a

theorem segmentsOutcome_cons (a : Assembly) (segments : List Segment) :
    c.segmentsOutcome tokens a (segment :: segments) =
      match c.segmentOutcome tokens a segment with
      | .ok _ b => c.segmentsOutcome tokens b segments
      | .error e b => .error e b := by
  rw [segmentsOutcome, Leaf.under_eq, List.flatMap_cons, ← Leaf.under_eq, Build.run_forM_append]
  change (match c.segmentOutcome tokens a segment with
    | .ok _ b => _
    | .error e b => _) = _
  cases h : c.segmentOutcome tokens a segment with
  | error e b => rfl
  | ok u b =>
    dsimp only
    rw [segmentsOutcome, (blind_placeLeaves _).expanding_eq h]

theorem expanding_segmentOutcome (a : Assembly) :
    (c.segmentOutcome tokens a segment).assembly.expanding = a.expanding :=
  (blind_placeLeaves _).expanding_assembly a

/-! ### Steps -/

def Reaches (c : Compiler) (tokens : TokenTable) (w w' : Walk) : Prop :=
  ∃ n, (c.next tokens)^[n] w = w'

namespace Reaches

theorem refl (w : Walk) : c.Reaches tokens w w := ⟨0, rfl⟩

theorem trans (h : c.Reaches tokens w w') (h' : c.Reaches tokens w' w'') :
    c.Reaches tokens w w'' := by
  obtain ⟨n, rfl⟩ := h
  obtain ⟨m, rfl⟩ := h'
  exact ⟨m + n, Function.iterate_add_apply _ m n w⟩

theorem step (h : c.Reaches tokens (c.next tokens w) w') : c.Reaches tokens w w' := by
  obtain ⟨n, h⟩ := h
  exact ⟨n + 1, h⟩

end Reaches

variable {a : Assembly} {rest : List Task}

theorem next_close (failure : Option FrameError) :
    c.next tokens ⟨a, .close :: rest, failure⟩ =
      ⟨{ a with expanding := a.expanding.dropLast }, rest, failure⟩ := by
  cases failure <;> rfl

theorem next_of_opened (h : c.opened? tokens a.expanding segment = some (id, children)) :
    c.next tokens { assembly := a, todo := .place segment :: rest } =
      { assembly := { a with expanding := a.expanding ++ [id] }
        todo := children.segments.map .place ++ .close :: rest } := by
  simp only [next, h]

theorem next_of_not_opened (h : c.opened? tokens a.expanding segment = none) :
    c.next tokens { assembly := a, todo := .place segment :: rest } =
      .after rest (c.segmentOutcome tokens a segment) := by
  have hplace :=
    @place_eq_leaves c tokens (fun _ => pure ()) (fun _ _ => []) (fun _ _ => rfl) segment a
  simp only [next, h]
  rw [hplace, ofSegment_of_not_opened h]
  change _ = Walk.after rest ((Leaf.ofSegment tokens _ _ a.expanding segment).forM c.placeLeaf a)
  cases (Leaf.ofSegment tokens c.options.maxContainerDepth
    (Leaf.under tokens c.options.maxContainerDepth) a.expanding segment).forM c.placeLeaf a <;> rfl

theorem reaches_skip (e : FrameError) (segments : List Segment) :
    c.Reaches tokens ⟨a, segments.map .place ++ rest, some e⟩ ⟨a, rest, some e⟩ := by
  induction segments with
  | nil => exact .refl _
  | cons segment segments ih => exact .step ih

/-- A container that was opened is closed again, in the assembly that its children would have made
without it. -/
theorem reaches_close (outcome : Build.Outcome)
    (hopen : outcome.assembly.expanding = a.expanding) :
    c.Reaches tokens (.after (.close :: rest) (outcome.reopen (a.expanding ++ [id])))
      (.after rest outcome) := by
  have hlast : (a.expanding ++ [id]).dropLast = outcome.assembly.expanding := by
    rw [List.dropLast_concat, hopen]
  cases outcome with
  | ok u b =>
    refine .step ?_
    rw [Build.Outcome.reopen, Walk.after, next_close]
    dsimp only
    rw [hlast]
    exact .refl _
  | error e b =>
    refine .step ?_
    rw [Build.Outcome.reopen, Walk.after, next_close]
    dsimp only
    rw [hlast]
    exact .refl _

theorem reaches_segment
    (ih : ∀ id children, c.opened? tokens a.expanding segment = some (id, children) → ∀ rest,
      let inner : Assembly := { a with expanding := a.expanding ++ [id] }
      c.Reaches tokens { assembly := inner, todo := children.segments.map .place ++ rest }
        (.after rest (c.segmentsOutcome tokens inner children.segments))) :
    c.Reaches tokens { assembly := a, todo := .place segment :: rest }
      (.after rest (c.segmentOutcome tokens a segment)) := by
  refine .step ?_
  cases h : c.opened? tokens a.expanding segment with
  | none =>
    rw [next_of_not_opened h]
    exact .refl _
  | some entry =>
    obtain ⟨id, children⟩ := entry
    have hinner := ih id children h (.close :: rest)
    rw [next_of_opened h]
    refine hinner.trans ?_
    have hblind := blind_placeLeaves (c := c)
      (Leaf.under tokens c.options.maxContainerDepth (a.expanding ++ [id]) children.segments)
    rw [segmentsOutcome, hblind a (a.expanding ++ [id])]
    have hsame : c.segmentOutcome tokens a segment =
        (Leaf.under tokens c.options.maxContainerDepth (a.expanding ++ [id])
          children.segments).forM c.placeLeaf a := by
      rw [segmentOutcome, ofSegment_of_opened h]
    rw [hsame]
    exact reaches_close _ (hblind.expanding_assembly a)

/-- Segments are worked off. The induction is on the number of containers that can still be opened,
and inside of it on the segments. -/
theorem reaches_segments (n : Nat) (a : Assembly) (hn : tokens.closedCount a.expanding ≤ n)
    (segments : List Segment) (rest : List Task) :
    c.Reaches tokens { assembly := a, todo := segments.map .place ++ rest }
      (.after rest (c.segmentsOutcome tokens a segments)) := by
  induction n using Nat.strong_induction_on generalizing a segments rest with
  | h n ih =>
    induction segments generalizing a with
    | nil =>
      rw [segmentsOutcome, Leaf.under_eq]
      exact .refl _
    | cons segment segments ihs =>
      have hsegment : c.Reaches tokens
          { assembly := a, todo := .place segment :: (segments.map .place ++ rest) }
          (.after (segments.map .place ++ rest) (c.segmentOutcome tokens a segment)) := by
        refine reaches_segment fun id children h rest => ?_
        obtain ⟨key, t, -, hget, hkind, rfl, hnot, -⟩ := opened?_eq_some_iff.mp h
        have hless := TokenTable.closedCount_append
          (TokenTable.id_mem_containerIds hget hkind) hnot
        exact ih (n - 1) (by omega) _ (by dsimp only; omega) children.segments rest
      refine Reaches.trans hsegment ?_
      have hexpanding : (c.segmentOutcome tokens a segment).assembly.expanding = a.expanding :=
        expanding_segmentOutcome a
      rw [segmentsOutcome_cons]
      cases houtcome : c.segmentOutcome tokens a segment with
      | error e b => exact reaches_skip e segments
      | ok u b =>
        rw [houtcome] at hexpanding
        exact ihs b (by rw [show b.expanding = a.expanding from hexpanding]; exact hn)

theorem reaches_rest (a : Assembly) (failure : Option FrameError) (segment : Segment)
    (rest : List Task) :
    ∃ b failure', c.Reaches tokens ⟨a, .place segment :: rest, failure⟩ ⟨b, rest, failure'⟩ ∧
      b.expanding = a.expanding := by
  cases failure with
  | some e => exact ⟨a, some e, .step (.refl _), rfl⟩
  | none =>
    have hreach : c.Reaches tokens { assembly := a, todo := .place segment :: rest }
        (.after rest (c.segmentOutcome tokens a segment)) :=
      reaches_segment fun id children _ rest => reaches_segments _ _ le_rfl children.segments rest
    have hexpanding : (c.segmentOutcome tokens a segment).assembly.expanding = a.expanding :=
      expanding_segmentOutcome a
    cases houtcome : c.segmentOutcome tokens a segment with
    | ok u b =>
      rw [houtcome] at hreach hexpanding
      exact ⟨b, none, hreach, hexpanding⟩
    | error e b =>
      rw [houtcome] at hreach hexpanding
      exact ⟨b, some e, hreach, hexpanding⟩

/-! ### The open containers -/

/-- The open containers are different ones of the table, and not too many. -/
structure OpenDistinct (c : Compiler) (tokens : TokenTable) (expanding : List TokenId) : Prop where
  nodup : expanding.Nodup
  subset : expanding ⊆ tokens.containerIds
  length_le : expanding.length ≤ c.options.maxContainerDepth

namespace OpenDistinct

theorem nil : c.OpenDistinct tokens [] :=
  ⟨List.nodup_nil, List.nil_subset _, Nat.zero_le _⟩

theorem push (h : c.OpenDistinct tokens expanding)
    (hopened : c.opened? tokens expanding segment = some (id, children)) :
    c.OpenDistinct tokens (expanding ++ [id]) := by
  obtain ⟨key, t, -, hget, hkind, rfl, hnot, hlength⟩ := opened?_eq_some_iff.mp hopened
  refine ⟨?_, ?_, ?_⟩
  · exact List.nodup_append_comm.mp (List.nodup_cons.mpr ⟨hnot, h.nodup⟩)
  · refine List.append_subset.mpr ⟨h.subset, List.cons_subset.mpr ⟨?_, List.nil_subset _⟩⟩
    exact TokenTable.id_mem_containerIds hget hkind
  · rw [List.length_append, List.length_singleton]
    exact hlength

theorem pop (h : c.OpenDistinct tokens expanding) : c.OpenDistinct tokens expanding.dropLast := by
  have hsub := List.dropLast_sublist expanding
  exact ⟨h.nodup.sublist hsub, fun id hid => h.subset (hsub.subset hid),
    hsub.length_le.trans h.length_le⟩

theorem length_le_containers (h : c.OpenDistinct tokens expanding) :
    expanding.length ≤ tokens.containerIds.dedup.length := by
  have hsubset : expanding ⊆ tokens.containerIds.dedup :=
    fun id hid => List.mem_dedup.mpr (h.subset hid)
  exact (List.subperm_of_subset h.nodup hsubset).length_le

theorem next (h : c.OpenDistinct tokens w.assembly.expanding) :
    c.OpenDistinct tokens (c.next tokens w).assembly.expanding := by
  obtain ⟨a, todo, failure⟩ := w
  match todo, failure with
  | [], failure => exact h
  | .close :: rest, failure =>
    rw [next_close]
    exact h.pop
  | .place segment :: rest, some e => exact h
  | .place segment :: rest, none =>
    cases hopened : c.opened? tokens a.expanding segment with
    | some entry =>
      rw [next_of_opened hopened]
      exact h.push hopened
    | none =>
      have hexpanding : (c.segmentOutcome tokens a segment).assembly.expanding = a.expanding :=
        expanding_segmentOutcome a
      rw [next_of_not_opened hopened]
      cases houtcome : c.segmentOutcome tokens a segment <;> rw [houtcome] at hexpanding <;>
        exact (show _ = a.expanding from hexpanding) ▸ h

theorem iterate (h : c.OpenDistinct tokens w.assembly.expanding) (n : Nat) :
    c.OpenDistinct tokens ((c.next tokens)^[n] w).assembly.expanding := by
  induction n with
  | zero => exact h
  | succ n ih =>
    rw [Function.iterate_succ_apply']
    exact ih.next

end OpenDistinct

theorem expanding_walk (depth : Nat) (segments : List Segment) (a : Assembly) :
    (Build.Outcome.assembly (c.walk tokens depth segments a)).expanding = a.expanding := by
  rw [walk_eq_leaves]
  exact (blind_placeLeaves _).expanding_assembly a

theorem expanding_expand (o : Options) (body : Build Unit) (a : Assembly)
    (h : ∀ a, (Build.Outcome.assembly (body a)).expanding = a.expanding) :
    (Build.Outcome.assembly (Build.expand o id body a)).expanding = a.expanding := by
  unfold Build.expand
  rw [Build.run_get_bind]
  have hwarn : ∀ w, (Build.Outcome.assembly (Build.warn o w a)).expanding = a.expanding := by
    intro w
    rw [Build.run_warn]
    simp only [Build.Outcome.judge]
    split <;> rfl
  split
  · exact hwarn _
  split
  · exact hwarn _
  · have hbody := h { a with expanding := a.expanding ++ [id] }
    unfold Build.within
    cases houtcome : body { a with expanding := a.expanding ++ [id] } with
    | ok u b | error e b =>
      rw [houtcome] at hbody
      change b.expanding = a.expanding ++ [id] at hbody
      change b.expanding.dropLast = a.expanding
      rw [hbody, List.dropLast_concat]

theorem compile_eq_result (segments : List Segment) (store : CounterStore) :
    c.compile segments tokens store =
      (Walk.after [] (c.segmentsOutcome tokens { counters := store } segments)).result c := by
  have hleaves : c.leaves tokens segments = Leaf.under tokens c.options.maxContainerDepth [] segments :=
    rfl
  rw [compile_eq_compileLeaves, compileLeaves, segmentsOutcome, hleaves]
  cases (Leaf.under tokens c.options.maxContainerDepth [] segments).forM c.placeLeaf
    { counters := store } <;> rfl

/-- Every walk ends, for any table and any limit, and with what the compile gives. The containers
that are open are at all times different ones of the table, so they are no more than the limit and
no more than the table has. Whatever a segment opens is closed when the segment is done, also if it
fails, and the recursive walk opens and closes alike. -/
theorem walk_terminates (c : Compiler) (tokens : TokenTable) (segments : List Segment)
    (store : CounterStore) :
    let walk n := (c.next tokens)^[n] (.start segments store)
    (∃ n, (walk n).todo = [] ∧ (walk n).result c = c.compile segments tokens store) ∧
    (∀ n, (walk n).assembly.expanding.Nodup ∧
      (∀ id ∈ (walk n).assembly.expanding, id ∈ tokens.containerIds) ∧
      (walk n).assembly.expanding.length ≤
        min c.options.maxContainerDepth tokens.containerIds.dedup.length) ∧
    (∀ n segment rest, (walk n).todo = .place segment :: rest →
      ∃ m > n, (walk m).todo = rest ∧
        (walk m).assembly.expanding = (walk n).assembly.expanding) ∧
    ∀ depth children id a, (Build.Outcome.assembly
      (Build.expand c.options id (c.walk tokens depth children) a)).expanding = a.expanding := by
  intro walk
  refine ⟨?_, fun n => ?_, fun n segment rest htodo => ?_,
    fun depth children id a => expanding_expand _ _ a (expanding_walk depth children)⟩
  · obtain ⟨n, hn⟩ : c.Reaches tokens
        { assembly := { counters := store }, todo := segments.map .place ++ [] }
        (.after [] (c.segmentsOutcome tokens { counters := store } segments)) :=
      reaches_segments _ _ le_rfl segments []
    rw [List.append_nil] at hn
    have hwalk : walk n = .after [] (c.segmentsOutcome tokens { counters := store } segments) := hn
    refine ⟨n, ?_, by rw [hwalk, compile_eq_result]⟩
    rw [hwalk]
    cases c.segmentsOutcome tokens { counters := store } segments <;> rfl
  · have hopen : c.OpenDistinct tokens (walk n).assembly.expanding := .iterate .nil n
    exact ⟨hopen.nodup, fun id hid => hopen.subset hid,
      le_min hopen.length_le hopen.length_le_containers⟩
  · obtain ⟨b, failure, ⟨k, hk⟩, hexpanding⟩ :=
      @reaches_rest c tokens (walk n).assembly (walk n).failure segment rest
    rw [← htodo] at hk
    have hwalk : walk (n + k) = ⟨b, rest, failure⟩ := by
      rw [Nat.add_comm]
      exact (Function.iterate_add_apply _ k n _).trans hk
    refine ⟨n + k, ?_, by rw [hwalk], by rw [hwalk, hexpanding]⟩
    rcases Nat.eq_zero_or_pos k with rfl | hpos
    · have hsame : .place segment :: rest = rest := by
        rw [← htodo, ← Nat.add_zero n, hwalk]
      exact absurd (congrArg List.length hsame) (by simp)
    · omega

open Sample in
/-- Two containers that refer to each other, and no limit to speak of. -/
theorem walk_terminates_cycle :
    let a := token "a" (.container (.ofSegments [literal "a1" "01", reference "a2" "b"]))
    let b := token "b" (.container (.ofSegments [reference "b1" "a"]))
    let tokens := TokenTable.ofTokens [a, b]
    let c := Compiler.mk { maxContainerDepth := 2 ^ 64 - 1 } ⟨0⟩
    let walk n := (c.next tokens)^[n] (.start [reference "s1" "a"] .empty)
    ∃ n frame, (walk n).todo = [] ∧ (walk n).result c = .ok frame ∧ frame.raw = [0x01] ∧
      frame.warnings = [.recursiveContainer ⟨"a"⟩] ∧
      (walk 0).todo = [.place (reference "s1" "a")] ∧
      ∃ m > 0, (walk m).todo = [] ∧ (walk m).assembly.expanding = [] := by
  intro a b tokens c walk
  let frame : Frame :=
    { sent := [0x01]
      raw := [0x01]
      checksums := []
      warnings := [.recursiveContainer ⟨"a"⟩]
      counters := .empty }
  have hframe : c.compile [reference "s1" "a"] tokens .empty = .ok frame := by decide +kernel
  obtain ⟨⟨n, htodo, hresult⟩, -, hclosed, -⟩ :=
    walk_terminates c tokens [reference "s1" "a"] .empty
  exact ⟨n, frame, htodo, hresult.trans hframe, rfl, rfl, rfl,
    hclosed 0 (reference "s1" "a") [] rfl⟩

end Compiler

end SerialFrame
