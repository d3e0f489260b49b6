import SerialFrame.Frame.Session
import SerialFrame.Proofs.Counter.Value
import SerialFrame.Proofs.Frame.Run
import SerialFrame.Proofs.Token.Table
import SerialFrame.Sample.Projects

/-!
# Counters over a session

`counter_progression`: over all frames of a session, and over all places of a frame, a counter goes
through one arithmetic progression. `Progress` says how far it has come. A leaf preserves it
(`Progress.place`), hence a frame does and hence a whole session; a request that fails counts for
nothing.
-/

namespace SerialFrame

namespace Compiler

variable {c : Compiler} {a b : Assembly} {leaf : Leaf}

theorem warnings_counter_eq_nil_iff {id : TokenId} {config : CounterConfig} {store : CounterStore} :
    c.warnings a (.counter id config) = [] ↔ c.tick? id config store ≠ none := by
  unfold warnings tick?
  by_cases hwide : c.options.maxCounterWidth < config.bytes.toNat
  · simp [hwide]
  · by_cases hzero : config.bytes = 0 <;> simp [hwide, hzero, tick?_eq_none_iff]

/-- A leaf either leaves all counters alone or sends one, which then has its next value. -/
theorem emission_cases (h : c.placeLeaf leaf a = .ok () b) :
    (emission leaf a b = [] ∧ b.counters = a.counters ∧
      ∀ id config, leaf = .counter id config → c.tick? id config a.counters = none) ∨
    ∃ id config tick, leaf = .counter id config ∧ c.tick? id config a.counters = some tick ∧
      emission leaf a b = [⟨id, tick.emitted⟩] ∧ b.counters = a.counters.set id tick.next := by
  obtain ⟨edit, hedit, rfl, -⟩ := placeLeaf_eq_ok_iff.mp h
  cases leaf with
  | counter id config =>
    injection hedit with hedit
    subst hedit
    cases htick : c.tick? id config a.counters with
    | none =>
      have hwarns : (c.warnings a (.counter id config)).length ≠ 0 := fun hnil =>
        warnings_counter_eq_nil_iff.mp (List.eq_nil_of_length_eq_zero hnil) htick
      refine .inl ⟨?_, ?_, fun _ _ heq => ?_⟩
      · simp only [emission, Leaf.counter?, after, List.length_append]
        exact if_neg (by omega)
      · simp only [after, advance, htick]
      · cases heq
        exact htick
    | some tick =>
      have hquiet : c.warnings a (.counter id config) = [] :=
        warnings_counter_eq_nil_iff.mpr (by rw [htick]; exact Option.some_ne_none tick)
      refine .inr ⟨id, config, tick, rfl, htick, ?_, ?_⟩
      · simp [emission, Leaf.counter?, after, hquiet, Edit.apply, Edit.on, payload, payload?, htick]
      · simp only [after, advance, htick]
  | text | timestamp | checksum | unknown | dangling | recursive | tooDeep =>
    exact .inl ⟨rfl, rfl, fun _ _ heq => by cases heq⟩

theorem emissions_cons {leaves : List Leaf} (h : c.placeLeaf leaf a = .ok () b) :
    c.emissions (leaf :: leaves) a = emission leaf a b ++ c.emissions leaves b := by
  rw [emissions, h]

theorem tick?_eq_some {id : TokenId} {config : CounterConfig} {store : CounterStore}
    {tick : Counter.Tick} (h : c.tick? id config store = some tick) :
    tick.emitted = Counter.current id config store ∧
      tick.next = Counter.advance (Counter.current id config store) config.step := by
  unfold tick? Counter.tick? at h
  split at h
  · cases h
  · split at h
    · cases h
    · injection h with h
      rw [← h]
      exact ⟨rfl, rfl⟩

theorem tick?_sendable {id : TokenId} {config : CounterConfig} (hsome : config.bytes ≠ 0)
    (hwidth : config.bytes.toNat ≤ c.options.maxCounterWidth) (store : CounterStore) :
    c.tick? id config store ≠ none := by
  rw [tick?, if_neg (Nat.not_lt.mpr hwidth)]
  exact fun h => hsome (tick?_eq_none_iff.mp h)

end Compiler

namespace Session

variable {tokens : TokenTable} {id : TokenId} {config : CounterConfig} {store : CounterStore}
  {s : Session} {c : Compiler} {a b : Assembly}

theorem extend_nil : s.extend s.counters [] [] = s := by
  simp [extend]

theorem extend_extend (counters counters' : CounterStore) (leaves leaves' : List Leaf)
    (sent sent' : List Emission) :
    (s.extend counters leaves sent).extend counters' leaves' sent' =
      s.extend counters' (leaves ++ leaves') (sent ++ sent') := by
  simp [extend]

theorem references_extend (counters : CounterStore) (leaves : List Leaf) (sent : List Emission) :
    (s.extend counters leaves sent).references id =
      s.references id + leaves.countP fun leaf => leaf.counter? = some id :=
  List.countP_append

theorem references_extend_self (counters : CounterStore) (sent : List Emission) :
    (s.extend counters [.counter id config] sent).references id = s.references id + 1 := by
  rw [references_extend, List.countP_singleton]
  simp [Leaf.counter?]

theorem references_extend_of_ne {leaf : Leaf} (h : leaf.counter? ≠ some id)
    (counters : CounterStore) (sent : List Emission) :
    (s.extend counters [leaf] sent).references id = s.references id := by
  rw [references_extend, List.countP_singleton]
  simp [h]

theorem values_extend (counters : CounterStore) (leaves : List Leaf) (sent : List Emission) :
    (s.extend counters leaves sent).values id =
      s.values id ++ (sent.filter fun e => e.counter = id).map (·.bytes) := by
  rw [values, extend, List.filter_append, List.map_append]
  rfl

theorem values_extend_self (counters : CounterStore) (leaves : List Leaf) (bytes : Bytes) :
    (s.extend counters leaves [⟨id, bytes⟩]).values id = s.values id ++ [bytes] := by
  rw [values_extend]
  simp

theorem values_extend_of_ne {other : TokenId} (h : id ≠ other) (counters : CounterStore)
    (leaves : List Leaf) (bytes : Bytes) :
    (s.extend counters leaves [⟨other, bytes⟩]).values id = s.values id := by
  rw [values_extend]
  simp [h.symm]

/-- How far the counter `id` has come since the counters were `store`: it was sent as often as it
was referred to, and is stored if it was sent. Counters that were not sent are as they were. -/
structure Progress (id : TokenId) (config : CounterConfig) (store : CounterStore) (s : Session) :
    Prop where
  values : s.values id =
    (List.range (s.references id)).map (config.nth (Counter.start id config store))
  stored : 0 < s.references id →
    s.counters.get? id = some (config.nth (Counter.start id config store) (s.references id))
  kept : ∀ other, s.values other = [] → s.counters.get? other = store.get? other

namespace Progress

theorem nil : Progress id config store { counters := store } :=
  ⟨rfl, fun h => absurd h (Nat.lt_irrefl 0), fun _ _ => rfl⟩

theorem current (h : s.Progress id config store) (hbits : 2 * config.bytes.toNat < UInt64.size) :
    Counter.current id config s.counters =
      config.nth (Counter.start id config store) (s.references id) := by
  rcases Nat.eq_zero_or_pos (s.references id) with hzero | hpos
  · have hnone : s.values id = [] := by
      rw [h.values, hzero]
      rfl
    have hget := h.kept id hnone
    have hstart : Counter.start id config s.counters = Counter.start id config store := by
      rw [Counter.start, Counter.start, hget]
    rw [Counter.current_start hbits, hstart, hzero]
  · exact Counter.current_of_stored (h.stored hpos)

theorem idle {leaf : Leaf} (h : s.Progress id config store) (hother : leaf.counter? ≠ some id) :
    (s.extend s.counters [leaf] []).Progress id config store := by
  have hrefs := references_extend_of_ne (s := s) hother s.counters []
  have hvalues : ∀ x, (s.extend s.counters [leaf] []).values x = s.values x := fun x => by
    rw [values_extend]
    exact List.append_nil _
  refine ⟨?_, fun hpos => ?_, fun x hnone => ?_⟩
  · rw [hvalues, hrefs]
    exact h.values
  · rw [hrefs] at hpos ⊢
    exact h.stored hpos
  · rw [hvalues] at hnone
    exact h.kept x hnone

theorem kept_set {other : TokenId} {leaves : List Leaf} {bytes value : Bytes}
    (h : s.Progress id config store) {x : TokenId}
    (hnone : (s.extend (s.counters.set other value) leaves [⟨other, bytes⟩]).values x = []) :
    (s.counters.set other value).get? x = store.get? x := by
  have hx : x ≠ other := by
    rintro rfl
    rw [values_extend_self] at hnone
    exact List.append_ne_nil_of_right_ne_nil _ (List.cons_ne_nil _ _) hnone
  rw [values_extend_of_ne hx] at hnone
  rw [CounterStore.get?_set_of_ne hx]
  exact h.kept x hnone

theorem other {other : TokenId} {config' : CounterConfig} {bytes value : Bytes}
    (h : s.Progress id config store) (hne : id ≠ other) :
    (s.extend (s.counters.set other value) [.counter other config'] [⟨other, bytes⟩]).Progress
      id config store := by
  have hleaf : (Leaf.counter other config').counter? ≠ some id :=
    fun heq => hne (Option.some.inj heq).symm
  refine ⟨?_, fun hpos => ?_, fun x hnone => h.kept_set hnone⟩
  · rw [values_extend_of_ne hne, references_extend_of_ne hleaf]
    exact h.values
  · rw [references_extend_of_ne hleaf] at hpos ⊢
    exact (CounterStore.get?_set_of_ne hne).trans (h.stored hpos)

theorem next (h : s.Progress id config store) (hbits : 2 * config.bytes.toNat < UInt64.size) :
    (s.extend
      (s.counters.set id (Counter.advance (Counter.current id config s.counters) config.step))
      [.counter id config] [⟨id, Counter.current id config s.counters⟩]).Progress
      id config store := by
  rw [h.current hbits, Counter.advance_nth]
  refine ⟨?_, fun _ => ?_, fun x hnone => h.kept_set hnone⟩
  · rw [values_extend_self, references_extend_self, h.values, List.range_succ, List.map_append]
    rfl
  · rw [references_extend_self]
    exact CounterStore.get?_set_self

variable {leaf : Leaf} {leaves : List Leaf}

theorem place (h : s.Progress id config store) (hbits : 2 * config.bytes.toNat < UInt64.size)
    (hsends : c.tick? id config s.counters ≠ none)
    (hconfig : ∀ config', leaf = .counter id config' → config' = config)
    (hcounters : a.counters = s.counters) (hplace : c.placeLeaf leaf a = .ok () b) :
    (s.extend b.counters [leaf] (Compiler.emission leaf a b)).Progress id config store := by
  rcases Compiler.emission_cases hplace with
    ⟨hnone, hsame, hidle⟩ | ⟨other, config', tick, rfl, htick, hsent, hset⟩
  · have hother : leaf.counter? ≠ some id := by
      intro hleaf
      cases leaf <;> cases hleaf
      next config' =>
      rw [hconfig config' rfl, hcounters] at hidle
      exact hsends (hidle id config rfl)
    rw [hnone, hsame, hcounters]
    exact h.idle hother
  · obtain ⟨hemitted, hnext⟩ := Compiler.tick?_eq_some htick
    rw [hsent, hset, hcounters]
    by_cases hid : id = other
    · subst hid
      rw [hconfig config' rfl, hcounters] at hemitted hnext
      rw [hconfig config' rfl, hemitted, hnext]
      exact h.next hbits
    · exact h.other hid

theorem frame (h : s.Progress id config store) (hbits : 2 * config.bytes.toNat < UInt64.size)
    (hsends : ∀ counters, c.tick? id config counters ≠ none)
    (hconfig : ∀ config', .counter id config' ∈ leaves → config' = config)
    (hcounters : a.counters = s.counters) (hrun : leaves.forM c.placeLeaf a = .ok () b) :
    (s.extend b.counters leaves (c.emissions leaves a)).Progress id config store := by
  induction leaves generalizing s a with
  | nil =>
    injection hrun with _ hrun
    rw [← hrun, hcounters, Compiler.emissions, extend_nil]
    exact h
  | cons leaf leaves ih =>
    obtain ⟨x, hplace, hrest⟩ := Compiler.run_cons_eq_ok_iff.mp hrun
    have hfirst := h.place hbits (hsends _)
      (fun config' heq => hconfig config' (heq ▸ List.mem_cons_self)) hcounters hplace
    have hlast := ih hfirst (fun config' hmem => hconfig config' (List.mem_cons_of_mem _ hmem))
      rfl hrest
    rwa [extend_extend, List.singleton_append, ← Compiler.emissions_cons hplace] at hlast

theorem send {r : Request} (h : s.Progress id config store)
    (hbits : 2 * config.bytes.toNat < UInt64.size)
    (hsends : ∀ counters, r.compiler.tick? id config counters ≠ none)
    (hconfig : ∀ config', (Leaf.counter id config').FromTable tokens → config' = config) :
    (s.send tokens r).Progress id config store := by
  unfold Session.send
  cases hcompile : r.compiler.compile r.segments tokens s.counters with
  | error e => exact h
  | ok frame =>
    obtain ⟨b, hrun, rfl⟩ := Compiler.compile_eq_ok_iff.mp hcompile
    have htable : ∀ config', .counter id config' ∈ r.compiler.leaves tokens r.segments →
        config' = config := fun config' hmem =>
      hconfig config' (Leaf.fromTable_ofSegments _ _ _ _ hmem)
    exact h.frame hbits hsends htable rfl hrun

end Progress

/-- Over a whole session, the values sent of a counter are those of one arithmetic progression, one
for each reference to it in a frame that was made, and the next one is stored. Other counters change
only when they are sent. -/
theorem counter_progression (hkeyed : tokens.Keyed) {t : Token} (ht : t ∈ tokens.tokens)
    (hkind : t.kind = .counter config) (hsome : config.bytes ≠ 0)
    (hbits : 2 * config.bytes.toNat < UInt64.size) (store : CounterStore)
    (requests : List Request)
    (hwidth : ∀ r ∈ requests, config.bytes.toNat ≤ r.compiler.options.maxCounterWidth) :
    let s := run tokens store requests
    let v := Counter.start t.id config store
    s.values t.id = (List.range (s.references t.id)).map (config.nth v) ∧
      (0 < s.references t.id → s.counters.get? t.id = some (config.nth v (s.references t.id))) ∧
      ∀ id, s.values id = [] → s.counters.get? id = store.get? id := by
  have hconfig : ∀ config', (Leaf.counter t.id config').FromTable tokens → config' = config := by
    rintro config' ⟨key, t', hget, hid, hkind'⟩
    have hkey : t'.id = key := (hkeyed.get?_iff.mp hget).2
    rw [← hkey, hid, hkeyed.get?_iff.mpr ⟨ht, rfl⟩] at hget
    rw [← Option.some.inj hget, hkind] at hkind'
    exact (TokenKind.counter.inj hkind').symm
  have hprogress : (run tokens store requests).Progress t.id config store := by
    unfold run
    refine List.foldlRecOn requests _ Progress.nil fun s h r hr => ?_
    exact h.send hbits (fun _ => Compiler.tick?_sendable hsome (hwidth r hr) _) hconfig
  exact ⟨hprogress.values, hprogress.stored, hprogress.kept⟩

open Sample in
/-- The counter runs over, stands in a container too, and loses nothing to a frame that fails. -/
theorem counter_progression_wraps :
    let seq := token "seq" (.counter { bytes := 1, currentValue := some "FE" })
    let box := token "box" (.container (.ofSegments [reference "c1" "seq"]))
    let requests : List Request :=
      [{ segments := [reference "s1" "seq", reference "s2" "box"] },
        { compiler := strictCompiler .hex, segments := [reference "s1" "seq", reference "s2" "no"] },
        { segments := [reference "s1" "box", reference "s2" "no"] }]
    let s := run (.ofTokens [seq, box]) .empty requests
    s.values seq.id = [[0xFE], [0xFF], [0x00]] ∧ s.counters.get? seq.id = some [0x01] ∧
      s.counters.get? box.id = none := by
  intro seq box requests s
  have hkeyed : (TokenTable.ofTokens [seq, box]).Keyed := by decide +kernel
  have hseq : seq ∈ (TokenTable.ofTokens [seq, box]).tokens := by decide +kernel
  have hwidth : ∀ r ∈ requests, (1 : UInt64).toNat ≤ r.compiler.options.maxCounterWidth := by decide
  have hrefs : s.references seq.id = 3 := by decide +kernel
  obtain ⟨hvalues, hstored, hkept⟩ :=
    counter_progression hkeyed hseq rfl (by decide) (by decide) .empty requests hwidth
  change s.values seq.id = _ at hvalues
  change 0 < s.references seq.id → s.counters.get? seq.id = _ at hstored
  rw [hrefs] at hvalues hstored
  refine ⟨hvalues.trans ?_, (hstored (by decide)).trans ?_, hkept box.id ?_⟩
  · decide +kernel
  · decide +kernel
  · decide +kernel

end Session

end SerialFrame
