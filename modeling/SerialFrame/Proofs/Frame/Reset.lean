import SerialFrame.Proofs.Frame.Emission

/-!
# Counters after a reset

A reset stores the default value of every counter of the table, except of one that is wider than
`widestByDefault`: that is forgotten. `resetAll_restarts` says what is sent after a reset; where the
options let through such a wide counter, it starts from its seed, and its current value counts
again.
-/

namespace SerialFrame

def CounterConfig.afterReset? (config : CounterConfig) : Option Bytes :=
  if CounterStore.widestByDefault < config.bytes.toNat then none
  else some (Counter.ofText config.defaultValue config.bytes.toNat)

namespace CounterStore

variable {s : CounterStore} {id id' : TokenId} {config : CounterConfig} {t : Token}
  {tokens : List Token} {table : TokenTable}

theorem get?_reset_self : (s.reset id config).get? id = config.afterReset? := by
  rw [reset, CounterConfig.afterReset?]
  split
  · rw [get?_forget_self]
  · rw [get?_set_self]

theorem get?_reset_of_ne (h : id' ≠ id) : (s.reset id config).get? id' = s.get? id' := by
  rw [reset]
  split
  · rw [get?_forget_of_ne h]
  · rw [get?_set_of_ne h]

def resetToken (s : CounterStore) (t : Token) : CounterStore :=
  match t.counter? with
  | some config => s.reset t.id config
  | none => s

theorem get?_resetToken_self (h : t.counter? = some config) :
    (s.resetToken t).get? t.id = config.afterReset? := by
  rw [resetToken, h]
  exact get?_reset_self

theorem get?_resetToken_of_not_counter (h : t.id = id → t.counter? = none) :
    (s.resetToken t).get? id = s.get? id := by
  rw [resetToken]
  cases hcounter : t.counter? with
  | none => rfl
  | some config =>
    have hne : id ≠ t.id := by
      rintro rfl
      rw [h rfl] at hcounter
      cases hcounter
    exact get?_reset_of_ne hne

theorem resetAll_eq_foldl (s : CounterStore) (table : TokenTable) :
    s.resetAll table = table.tokens.foldl resetToken s := rfl

theorem get?_resetTokens_of_not_counter (h : ∀ t ∈ tokens, t.id = id → t.counter? = none) :
    (tokens.foldl resetToken s).get? id = s.get? id := by
  induction tokens generalizing s with
  | nil => rfl
  | cons t tokens ih =>
    obtain ⟨hfirst, hrest⟩ := List.forall_mem_cons.mp h
    rw [List.foldl_cons, ih hrest, get?_resetToken_of_not_counter hfirst]

/-- The tokens called `id` are one and the same counter, which is among them or was reset before. -/
theorem get?_resetTokens (hsame : ∀ t ∈ tokens, t.id = id → t.counter? = some config)
    (h : (∃ t ∈ tokens, t.id = id) ∨ s.get? id = config.afterReset?) :
    (tokens.foldl resetToken s).get? id = config.afterReset? := by
  induction tokens generalizing s with
  | nil =>
    rcases h with ⟨t, ht, -⟩ | h
    · cases ht
    · exact h
  | cons t tokens ih =>
    obtain ⟨hfirst, hrest⟩ := List.forall_mem_cons.mp hsame
    rw [List.foldl_cons]
    refine ih hrest ?_
    by_cases hid : t.id = id
    · right
      rw [← hid, get?_resetToken_self (hfirst hid)]
    · rcases h with ⟨t', ht', hid'⟩ | h
      · rcases List.mem_cons.mp ht' with rfl | ht'
        · exact absurd hid' hid
        · exact .inl ⟨t', ht', hid'⟩
      · right
        rw [get?_resetToken_of_not_counter fun heq => absurd heq hid, h]

theorem get?_resetAll_of_not_counter (h : ∀ t ∈ table.tokens, t.id = id → t.counter? = none) :
    (s.resetAll table).get? id = s.get? id := by
  rw [resetAll_eq_foldl, get?_resetTokens_of_not_counter h]

theorem get?_resetAll (hkeyed : table.Keyed) (ht : t ∈ table.tokens)
    (hkind : t.kind = .counter config) : (s.resetAll table).get? t.id = config.afterReset? := by
  rw [resetAll_eq_foldl]
  refine get?_resetTokens (fun t' ht' hid => ?_) (.inl ⟨t, ht, rfl⟩)
  have hget : table.get? t.id = some t := hkeyed.get?_iff.mpr ⟨ht, rfl⟩
  have hget' : table.get? t.id = some t' := hkeyed.get?_iff.mpr ⟨ht', hid⟩
  obtain rfl : t = t' := Option.some.inj (hget.symm.trans hget')
  rw [Token.counter?, hkind]

end CounterStore

theorem CounterStore.two_mul_lt_size {width : Nat} (h : width ≤ widestByDefault) :
    2 * width < UInt64.size :=
  Nat.lt_of_le_of_lt (Nat.mul_le_mul_left 2 h) (by decide)

theorem Counter.current_of_reset {id : TokenId} {config : CounterConfig} {store : CounterStore}
    (h : store.get? id = config.afterReset?) :
    current id config store =
      ofText (if CounterStore.widestByDefault < config.bytes.toNat then config.seed
        else config.defaultValue) config.bytes.toNat := by
  rw [current, h, CounterConfig.afterReset?]
  by_cases hwide : CounterStore.widestByDefault < config.bytes.toNat
  · rw [if_pos hwide, if_pos hwide]
  · have hbits := CounterStore.two_mul_lt_size (Nat.not_lt.mp hwide)
    rw [if_neg hwide, if_neg hwide]
    exact fitWidth_eq_self (length_ofText hbits)

namespace Compiler

variable {tokens : TokenTable}

/-- After a reset, whatever was stored before: a counter that is not wider than `widestByDefault` is
first sent with its default value, whether or not it has a current one. A wider one is forgotten and
is first sent with its seed, or without any bytes if its digits cannot be counted in 64 bits. All
that is no counter of the table keeps its entry. It does not matter whether a frame is made. -/
theorem resetAll_restarts (hkeyed : tokens.Keyed) (store : CounterStore) (c : Compiler)
    (segments : List Segment) :
    (∀ t ∈ tokens.tokens, ∀ config, t.kind = .counter config →
      let width := config.bytes.toNat
      (CounterStore.widestByDefault < width → (store.resetAll tokens).get? t.id = none) ∧
      ∀ e, (c.emissions (c.leaves tokens segments) { counters := store.resetAll tokens }).find?
          (fun e => e.counter = t.id) = some e →
        (width ≤ CounterStore.widestByDefault → e.bytes.length = width ∧
          e.bytes.value = Hex.number config.defaultValue % 256 ^ width) ∧
        (CounterStore.widestByDefault < width → 2 * width < UInt64.size →
          e.bytes.length = width ∧ e.bytes.value = Hex.number config.seed % 256 ^ width) ∧
        (UInt64.size ≤ 2 * width → e.bytes = [])) ∧
    ∀ id, (∀ t ∈ tokens.tokens, t.id = id → t.counter? = none) →
      (store.resetAll tokens).get? id = store.get? id := by
  refine ⟨fun t ht config hkind => ?_, fun id => CounterStore.get?_resetAll_of_not_counter⟩
  intro width
  have hget := CounterStore.get?_resetAll (s := store) hkeyed ht hkind
  refine ⟨fun hlt => hget.trans (if_pos hlt), fun e he => ?_⟩
  have hbytes := (bytes_of_first_emission
    (fun config' => config_eq_of_mem_leaves hkeyed ht hkind) he).trans
    (Counter.current_of_reset hget)
  refine ⟨fun hle => ?_, fun hlt hbits => ?_, fun hbits => ?_⟩
  · have hbits := CounterStore.two_mul_lt_size hle
    rw [hbytes, if_neg (Nat.not_lt.mpr hle)]
    exact ⟨Counter.length_ofText hbits, Counter.value_ofText hbits⟩
  · rw [hbytes, if_pos hlt]
    exact ⟨Counter.length_ofText hbits, Counter.value_ofText hbits⟩
  · rw [hbytes, Counter.ofText, if_neg (Nat.not_lt.mpr hbits)]

open Sample in
/-- After a reset a counter of two bytes starts from its default value and one of 33 bytes, inside
of a container, from its current one; what is stored under the id of the container is kept. -/
theorem resetAll_restarts_narrow_and_wide :
    let seq := token "seq"
      (.counter { bytes := 2, currentValue := some "0100", defaultValue := "1x2" })
    let wide := token "wide"
      (.counter { bytes := 33, currentValue := some "01", defaultValue := "02" })
    let box := token "box" (.container (.ofSegments [reference "b1" "wide", reference "b2" "seq"]))
    let tokens := TokenTable.ofTokens [seq, wide, box]
    let store := ((CounterStore.empty.set seq.id [0x99, 0x99]).set wide.id [0x99]).set box.id [0x07]
    let c : Compiler := { options := { maxCounterWidth := 64 } }
    let emissions := c.emissions (c.leaves tokens [reference "s1" "box", reference "s2" "seq"])
      { counters := store.resetAll tokens }
    ∃ e e', emissions.find? (fun e => e.counter = seq.id) = some e ∧
      emissions.find? (fun e => e.counter = wide.id) = some e' ∧
      e.bytes.length = 2 ∧ e.bytes.value = 0x12 ∧ e'.bytes.length = 33 ∧ e'.bytes.value = 0x01 ∧
      (store.resetAll tokens).get? box.id = some [0x07] := by
  intro seq wide box tokens store c emissions
  have hkeyed : tokens.Keyed := by decide +kernel
  have hseq : seq ∈ tokens.tokens := by decide +kernel
  have hwide : wide ∈ tokens.tokens := by decide +kernel
  obtain ⟨hfirst, hkept⟩ := resetAll_restarts hkeyed store c
    [reference "s1" "box", reference "s2" "seq"]
  have he : emissions.find? (fun e => e.counter = seq.id) = some ⟨seq.id, [0x00, 0x12]⟩ := by
    decide +kernel
  have he' : emissions.find? (fun e => e.counter = wide.id) =
      some ⟨wide.id, List.replicate 32 0x00 ++ [0x01]⟩ := by
    decide +kernel
  obtain ⟨hlength, hvalue⟩ := ((hfirst seq hseq _ rfl).2 _ he).1 (by decide)
  obtain ⟨hlength', hvalue'⟩ := ((hfirst wide hwide _ rfl).2 _ he').2.1 (by decide) (by decide)
  have hbox : ∀ t ∈ tokens.tokens, t.id = box.id → t.counter? = none := by decide +kernel
  refine ⟨_, _, he, he', hlength, hvalue.trans ?_, hlength', hvalue'.trans ?_,
    (hkept _ hbox).trans ?_⟩
  · decide +kernel
  · decide +kernel
  · decide +kernel

open Sample in
/-- Where the options let through a counter that is wider than `widestByDefault`, it is not sent
with its default value after a reset, but with its current one. -/
theorem resetAll_wide_not_default :
    let seq := token "seq"
      (.counter { bytes := 33, currentValue := some "01", defaultValue := "02" })
    let tokens := TokenTable.ofTokens [seq]
    let store := CounterStore.empty.set seq.id [0x99]
    let c : Compiler := { options := { maxCounterWidth := 64 } }
    tokens.Keyed ∧ seq ∈ tokens.tokens ∧ 33 ≤ c.options.maxCounterWidth ∧
      ∃ frame e, c.compile [reference "s1" "seq"] tokens (store.resetAll tokens) = .ok frame ∧
        (c.emissions (c.leaves tokens [reference "s1" "seq"])
          { counters := store.resetAll tokens }).find? (fun e => e.counter = seq.id) = some e ∧
        e.bytes = frame.raw ∧ e.bytes.value = 0x01 ∧
        e.bytes.value ≠ Hex.number "02" % 256 ^ 33 := by
  intro seq tokens store c
  let value : Bytes := List.replicate 32 0x00 ++ [0x01]
  let frame : Frame := ⟨value, value, [], [], .set .empty seq.id (List.replicate 32 0x00 ++ [0x02])⟩
  refine ⟨by decide +kernel, by decide +kernel, by decide, frame, ⟨seq.id, value⟩, ?_, ?_, rfl,
    ?_, ?_⟩
  · decide +kernel
  · decide +kernel
  · decide +kernel
  · decide +kernel

end Compiler

end SerialFrame
