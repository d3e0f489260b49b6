import SerialFrame.Proofs.Frame.Alike
import SerialFrame.Proofs.Frame.Uses
import SerialFrame.Proofs.Token.Table
import SerialFrame.Sample.Projects

/-!
# What a template does not use

Tokens and counters that a template does not use have no part in its frame, and the frame has none
in them: two compiles that agree on what is used end alike, and leave every other counter as each
found it (`unused_never_interferes`). While leaves are placed the two frames `Agree`.
-/

namespace SerialFrame

/-- Two frames half done are the same, but for counters other than `Used`. Those are on both sides as
they were at the start. -/
structure Assembly.Agree (Used : TokenId → Prop) (store store' : CounterStore) (a b : Assembly) :
    Prop where
  buffer : b.buffer = a.buffer
  checksums : b.checksums = a.checksums
  warnings : b.warnings = a.warnings
  used : ∀ id, Used id → b.counters.get? id = a.counters.get? id
  kept : ∀ id, ¬ Used id → a.counters.get? id = store.get? id
  kept' : ∀ id, ¬ Used id → b.counters.get? id = store'.get? id

namespace Compiler

variable {c : Compiler} {tokens tokens' : TokenTable} {segments : List Segment}
  {store store' : CounterStore} {a b : Assembly} {leaf : Leaf}

theorem get?_advance_of_ne {id : TokenId} (h : ∀ config, leaf ≠ .counter id config) :
    (c.advance store leaf).get? id = store.get? id := by
  cases leaf with
  | counter other config =>
    have hne : id ≠ other := fun heq => h config (by rw [heq])
    rw [advance]
    cases c.tick? other config store with
    | none => rfl
    | some tick => exact CounterStore.get?_set_of_ne hne
  | text | timestamp | checksum | unknown | dangling | recursive | tooDeep => rfl

theorem get?_advance_congr {id : TokenId} (h : store'.get? id = store.get? id) :
    (c.advance store' leaf).get? id = (c.advance store leaf).get? id := by
  by_cases hleaf : ∃ config, leaf = .counter id config
  · obtain ⟨config, rfl⟩ := hleaf
    rw [advance, advance, tick?_congr h]
    cases c.tick? id config store with
    | none => exact h
    | some tick => exact CounterStore.get?_set_self.trans CounterStore.get?_set_self.symm
  · have hne := not_exists.mp hleaf
    rw [get?_advance_of_ne hne, get?_advance_of_ne hne, h]

theorem agree_put {Used : TokenId → Prop} (h : a.Agree Used store store' b)
    (hleaf : ∀ id config, leaf = .counter id config → Used id) :
    Alike (Assembly.Agree Used store store') (c.put a leaf) (c.put b leaf) := by
  have hwarnings := warnings_congr (c := c) h.buffer leaf
  refine alike_put (edit_congr h.buffer fun id config heq => h.used id (hleaf id config heq))
    hwarnings fun edit _ => ?_
  have hunused : ∀ id, ¬ Used id → ∀ config, leaf ≠ .counter id config :=
    fun id hid config heq => hid (hleaf id config heq)
  constructor
  · simp only [after, h.buffer]
  · simp only [after, h.checksums]
  · simp only [after, h.warnings, hwarnings]
  · exact fun id hid => get?_advance_congr (h.used id hid)
  · exact fun id hid => (get?_advance_of_ne (hunused id hid)).trans (h.kept id hid)
  · exact fun id hid => (get?_advance_of_ne (hunused id hid)).trans (h.kept' id hid)

/-- Two compiles of the same segments, under tables that agree on the tokens that these use and with
stores that agree on the counters among them, fail with the same error or make the same frame. The
counters that are used agree afterwards too, and every other counter is on both sides as it was. -/
theorem unused_never_interferes (c : Compiler) (hkeyed : tokens.Keyed)
    (htokens : ∀ id, tokens.Uses segments id → tokens'.get? id = tokens.get? id)
    (hstores : ∀ id, tokens.UsesCounter segments id → store'.get? id = store.get? id) :
    Alike
      (fun frame frame' => frame'.sent = frame.sent ∧ frame'.raw = frame.raw ∧
        frame'.checksums = frame.checksums ∧ frame'.warnings = frame.warnings ∧
        (∀ id, tokens.UsesCounter segments id →
          frame'.counters.get? id = frame.counters.get? id) ∧
        ∀ id, ¬ tokens.UsesCounter segments id →
          frame.counters.get? id = store.get? id ∧ frame'.counters.get? id = store'.get? id)
      (c.compile segments tokens store) (c.compile segments tokens' store') := by
  have hleaves : c.leaves tokens' segments = c.leaves tokens segments :=
    Leaf.under_congr [] segments htokens
  have hused : ∀ leaf ∈ c.leaves tokens segments, ∀ id config, leaf = .counter id config →
      tokens.UsesCounter segments id := by
    rintro leaf hleaf id config rfl
    obtain ⟨key, t, huses, hget, hid, hkind⟩ := Leaf.usedIn_of_mem_under [] segments _ hleaf
    -- A leaf has the token's own id, and the token was found by that.
    obtain rfl : id = key := hid.symm.trans (hkeyed.get?_iff.mp hget).2
    exact ⟨huses, t, config, hget, hkind⟩
  have hrun : Alike (Assembly.Agree (tokens.UsesCounter segments) store store')
      ((c.leaves tokens segments).foldlM c.put { counters := store })
      ((c.leaves tokens segments).foldlM c.put { counters := store' }) := by
    refine Alike.foldlM ?_ ⟨rfl, rfl, rfl, hstores, fun _ _ => rfl, fun _ _ => rfl⟩
    exact fun leaf hleaf a b h => agree_put h (hused leaf hleaf)
  rw [compile_eq_foldlM, compile_eq_foldlM, hleaves]
  refine hrun.map fun a b h => ⟨?_, h.buffer, h.checksums, h.warnings, h.used,
    fun id hid => ⟨h.kept id hid, h.kept' id hid⟩⟩
  simp only [finish, h.buffer]

open Sample in
/-- A container that refers to itself holds the counter that is used. The tables differ in another
counter and in a container that only one of them has, and the stores in that other counter. -/
theorem unused_never_interferes_beside_cycle :
    let children := Template.ofSegments [reference "b1" "seq", reference "b2" "box"]
    let box := token "box" (.container children)
    let seq := token "seq" (.counter { bytes := 1 })
    let tokens := TokenTable.ofTokens [box, seq, token "other" (.counter { bytes := 2 })]
    let tokens' := TokenTable.ofTokens [box, seq, token "other" (.flag "7E"),
      token "more" (.container (.ofSegments [reference "m1" "box"]))]
    let store := CounterStore.empty.set seq.id [0x05]
    let store' := store.set ⟨"other"⟩ [0x01, 0x02]
    ∃ frame frame', Compiler.compile {} [reference "s1" "box"] tokens store = .ok frame ∧
      Compiler.compile {} [reference "s1" "box"] tokens' store' = .ok frame' ∧
      frame.raw = [0x05] ∧ frame'.raw = frame.raw ∧
      frame'.counters.get? seq.id = frame.counters.get? seq.id ∧
      frame.counters.get? ⟨"other"⟩ = none ∧
      frame'.counters.get? ⟨"other"⟩ = some [0x01, 0x02] := by
  intro children box seq tokens tokens' store store'
  let frame (counters : CounterStore) : Frame :=
    ⟨[0x05], [0x05], [], [.recursiveContainer box.id], counters.set seq.id [0x06]⟩
  have hframe : Compiler.compile {} [reference "s1" "box"] tokens store = .ok (frame store) := by
    decide +kernel
  have hframe' : Compiler.compile {} [reference "s1" "box"] tokens' store' = .ok (frame store') := by
    decide +kernel
  have hused : ∀ id, tokens.Uses [reference "s1" "box"] id → id ∈ [box.id, seq.id] :=
    fun id => TokenTable.Uses.mem_of_closed (by decide +kernel) (by decide +kernel)
  have htokens : ∀ id, tokens.Uses [reference "s1" "box"] id → tokens'.get? id = tokens.get? id := by
    have hsame : ∀ id ∈ [box.id, seq.id], tokens'.get? id = tokens.get? id := by decide +kernel
    exact fun id hid => hsame id (hused id hid)
  have hstores : ∀ id, tokens.UsesCounter [reference "s1" "box"] id →
      store'.get? id = store.get? id := by
    have hsame : ∀ id ∈ [box.id, seq.id], store'.get? id = store.get? id := by decide +kernel
    exact fun id hid => hsame id (hused id hid.1)
  have halike := unused_never_interferes {} (by decide +kernel) htokens hstores
  rw [hframe, hframe'] at halike
  obtain ⟨-, hraw, -, -, hcounters, hothers⟩ := halike.of_ok
  have hother : ¬ tokens.UsesCounter [reference "s1" "box"] ⟨"other"⟩ :=
    fun h => absurd (hused _ h.1) (by decide +kernel)
  have hbox : tokens.Uses [reference "s1" "box"] box.id :=
    .direct ⟨_, List.mem_singleton_self _, rfl⟩
  have hchildren : tokens.container? box.id = some children := by decide +kernel
  have hseq : tokens.UsesCounter [reference "s1" "box"] seq.id :=
    ⟨.inside hbox hchildren ⟨reference "b1" "seq", by decide +kernel, rfl⟩, seq, { bytes := 1 },
      by decide +kernel, rfl⟩
  exact ⟨_, _, hframe, hframe', rfl, hraw, hcounters seq.id hseq, (hothers _ hother).1,
    (hothers _ hother).2.trans CounterStore.get?_set_self⟩

end Compiler

end SerialFrame
