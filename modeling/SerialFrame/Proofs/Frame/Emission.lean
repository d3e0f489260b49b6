import SerialFrame.Proofs.Frame.Session

/-!
# The first emission of a counter

A counter is read from the store until it is sent and is stored from then on. So the first value
that is sent of it is the one that it has in the store at the start (`bytes_of_first_emission`), and
after it was sent it has an entry in the store at the end (`isSome_get?_of_emitted`).
-/

namespace SerialFrame

theorem Compiler.config_eq_of_mem_leaves {c : Compiler} {tokens : TokenTable}
    {segments : List Segment} {t : Token} {config : CounterConfig} (hkeyed : tokens.Keyed)
    (ht : t ∈ tokens.tokens) (hkind : t.kind = .counter config) {config' : CounterConfig}
    (h : .counter t.id config' ∈ c.leaves tokens segments) : config' = config := by
  obtain ⟨key, t', hget, hid, hkind'⟩ := Leaf.fromTable_ofSegments _ _ _ _ h
  have hkey : t'.id = key := (hkeyed.get?_iff.mp hget).2
  rw [← hkey, hid, hkeyed.get?_iff.mpr ⟨ht, rfl⟩] at hget
  rw [← Option.some.inj hget, hkind] at hkind'
  exact (TokenKind.counter.inj hkind').symm

theorem Counter.current_congr {id : TokenId} {store store' : CounterStore}
    (h : store'.get? id = store.get? id) (config : CounterConfig) :
    current id config store' = current id config store := by
  simp only [current, h]

namespace Compiler

variable {c : Compiler} {a b : Assembly} {leaves : List Leaf} {id : TokenId}
  {config : CounterConfig} {e : Emission}

theorem emissions_cons_of_error {leaf : Leaf} {error : FrameError}
    (h : c.placeLeaf leaf a = .error error b) : c.emissions (leaf :: leaves) a = [] := by
  rw [emissions, h]

/-- The first value that is sent of a counter is the one that it has at the start. -/
theorem bytes_of_first_emission
    (hconfig : ∀ config', .counter id config' ∈ leaves → config' = config)
    (h : (c.emissions leaves a).find? (fun e => e.counter = id) = some e) :
    e.bytes = Counter.current id config a.counters := by
  induction leaves generalizing a with
  | nil => cases h
  | cons leaf leaves ih =>
    have hrest : ∀ config', .counter id config' ∈ leaves → config' = config :=
      fun config' hmem => hconfig config' (List.mem_cons_of_mem _ hmem)
    cases hplace : c.placeLeaf leaf a with
    | error error b =>
      rw [emissions_cons_of_error hplace] at h
      cases h
    | ok u b =>
      rw [emissions_cons hplace] at h
      -- Until the counter itself is sent, no leaf changes what is stored for it.
      rcases emission_cases hplace with
        ⟨hnone, hsame, -⟩ | ⟨other, config', tick, rfl, htick, hsent, hset⟩
      · rw [hnone, List.nil_append] at h
        rw [ih hrest h, hsame]
      rw [hsent, List.singleton_append] at h
      by_cases hid : other = id
      · subst hid
        rw [List.find?_cons_of_pos (by simp)] at h
        rw [← Option.some.inj h, (tick?_eq_some htick).1, hconfig config' List.mem_cons_self]
      · rw [List.find?_cons_of_neg (by simpa using hid)] at h
        have hget : b.counters.get? id = a.counters.get? id := by
          rw [hset, CounterStore.get?_set_of_ne (Ne.symm hid)]
        rw [ih hrest h, Counter.current_congr hget]

theorem isSome_get?_advance {store : CounterStore} (h : (store.get? id).isSome) (leaf : Leaf) :
    ((c.advance store leaf).get? id).isSome := by
  cases leaf with
  | counter other config =>
    rw [advance]
    cases c.tick? other config store with
    | none => exact h
    | some tick =>
      by_cases hid : id = other
      · rw [hid, CounterStore.get?_set_self]
        rfl
      · rwa [CounterStore.get?_set_of_ne hid]
  | text | timestamp | checksum | unknown | dangling | recursive | tooDeep => exact h

theorem isSome_get?_of_run (hrun : leaves.forM c.placeLeaf a = .ok () b)
    (h : (a.counters.get? id).isSome) : (b.counters.get? id).isSome :=
  run_invariant (P := fun _ x => (x.counters.get? id).isSome) hrun h
    fun _ leaf _ _ _ hx _ => isSome_get?_advance hx leaf

theorem isSome_get?_of_emitted (hrun : leaves.forM c.placeLeaf a = .ok () b)
    (h : e ∈ c.emissions leaves a) : (b.counters.get? e.counter).isSome := by
  induction leaves generalizing a with
  | nil => cases h
  | cons leaf leaves ih =>
    obtain ⟨x, hplace, hrest⟩ := run_cons_eq_ok_iff.mp hrun
    rw [emissions_cons hplace] at h
    rcases List.mem_append.mp h with hfirst | hlater
    · rcases emission_cases hplace with ⟨hnone, -, -⟩ | ⟨other, config', tick, -, -, hsent, hset⟩
      · rw [hnone] at hfirst
        cases hfirst
      · rw [hsent] at hfirst
        refine isSome_get?_of_run hrest ?_
        rw [List.mem_singleton.mp hfirst, hset, CounterStore.get?_set_self]
        rfl
    · exact ih hrest hlater

end Compiler

end SerialFrame
