import SerialFrame.Proofs.Frame.Emission
import SerialFrame.Proofs.Frame.Noninterference
import SerialFrame.Proofs.Hex.Digit
import SerialFrame.Proofs.Hex.Exact

/-!
# Counters configured or stored

A hex text means the same as the current value of a counter and as its entry in the store, whether
it is too long for the counter or too short (`Counter.ofText_eq_fitWidth`). So a frame does not show
which of the two it was made from: while leaves are placed the one frame is `Seeded` as the other,
and `configured_as_stored` follows.
-/

namespace SerialFrame

/-! ### The two readers of a counter value -/

theorem CounterConfig.seed_eq {config : CounterConfig} {text : String}
    (htext : config.currentValue = some text) (hdigit : Hex.digits text.toList ≠ []) :
    config.seed = text := by
  obtain ⟨c, hc⟩ := List.exists_mem_of_ne_nil _ hdigit
  obtain ⟨hmem, hc⟩ := List.mem_filter.mp hc
  have hblank : ¬ text.toList.all Text.isBlank = true := by
    intro hall
    have hblank := List.all_eq_true.mp hall c hmem
    rw [Hex.not_isBlank_of_isDigit hc] at hblank
    cases hblank
  rw [seed, htext]
  exact if_neg hblank

theorem Hex.value_of_readExact {text : String} {bytes : Bytes} (h : readExact text = .ok bytes) :
    bytes.value = number text := by
  obtain ⟨-, heven, rfl⟩ := readExact_eq_ok_iff.mp h
  have hpairs : (text.toList.filterMap nibble?).length =
      2 * ((text.toList.filterMap nibble?).length / 2) := by omega
  exact value_pack hpairs

/-- Digits are cut off or put in front of the text as bytes are of what it spells. -/
theorem Counter.ofText_eq_fitWidth {text : String} {bytes : Bytes} {width : Nat}
    (hbits : 2 * width < UInt64.size) (h : Hex.readExact text = .ok bytes) :
    ofText text width = fitWidth bytes width := by
  have hvalue : (ofText text width).value = bytes.value % 256 ^ width := by
    rw [value_ofText hbits, Hex.value_of_readExact h]
  rw [fitWidth_eq_encode]
  exact Bytes.eq_encode (length_ofText hbits) hvalue

/-! ### Two frames side by side -/

def CounterConfig.StartsAs (config : CounterConfig) (value : Bytes) : Prop :=
  Counter.ofText config.seed config.bytes.toNat = Counter.fitWidth value config.bytes.toNat

/-- Two frames half done are the same, but for the counter `id`: until it is sent, `value` is stored
for it on the one side and nothing on the other. -/
structure Assembly.Seeded (id : TokenId) (value : Bytes) (a b : Assembly) : Prop where
  buffer : b.buffer = a.buffer
  checksums : b.checksums = a.checksums
  warnings : b.warnings = a.warnings
  others : ∀ other, other ≠ id → b.counters.get? other = a.counters.get? other
  counter : (a.counters.get? id = some value ∧ b.counters.get? id = none) ∨
    b.counters.get? id = a.counters.get? id

theorem Assembly.Seeded.counters_eq {id : TokenId} {value : Bytes} {a b : Assembly}
    (h : a.Seeded id value b) (hstored : (b.counters.get? id).isSome) :
    b.counters = a.counters := by
  refine CounterStore.ext_get? fun other => ?_
  by_cases hid : other = id
  · rw [hid]
    rcases h.counter with ⟨-, hnone⟩ | hsame
    · rw [hnone] at hstored
      cases hstored
    · exact hsame
  · exact h.others other hid

theorem Assembly.seeded_start (store : CounterStore) (id : TokenId) (value : Bytes) :
    Seeded id value { counters := store.set id value } { counters := store.forget id } := by
  refine ⟨rfl, rfl, rfl, fun other hne => ?_, .inl ⟨CounterStore.get?_set_self, ?_⟩⟩
  · exact (CounterStore.get?_forget_of_ne hne).trans (CounterStore.get?_set_of_ne hne).symm
  · exact CounterStore.get?_forget_self

namespace Compiler

variable {c : Compiler} {tokens : TokenTable} {a b : Assembly} {leaf : Leaf} {leaves : List Leaf}
  {id : TokenId} {config : CounterConfig} {value : Bytes}

theorem current_of_seeded (hseed : config.StartsAs value) (h : a.Seeded id value b) :
    Counter.current id config b.counters = Counter.current id config a.counters := by
  rcases h.counter with ⟨hstored, hnone⟩ | hsame
  · rw [Counter.current, Counter.current, hstored, hnone]
    exact hseed
  · exact Counter.current_congr hsame config

theorem tick?_of_seeded (hseed : config.StartsAs value)
    (hconfig : ∀ config', leaf = .counter id config' → config' = config)
    (h : a.Seeded id value b) {other : TokenId} {config' : CounterConfig}
    (hleaf : leaf = .counter other config') :
    c.tick? other config' b.counters = c.tick? other config' a.counters := by
  by_cases hid : other = id
  · subst hid
    rw [hconfig config' hleaf]
    simp only [tick?, Counter.tick?, current_of_seeded hseed h]
  · exact tick?_congr (h.others other hid) config'

theorem seeded_put (hseed : config.StartsAs value)
    (hconfig : ∀ config', leaf = .counter id config' → config' = config)
    (h : a.Seeded id value b) :
    Alike (Assembly.Seeded id value) (c.put a leaf) (c.put b leaf) := by
  have hwarnings := warnings_congr (c := c) h.buffer leaf
  have hedit := edit_congr_of_tick? (c := c) h.buffer fun _ _ => tick?_of_seeded hseed hconfig h
  refine alike_put hedit hwarnings fun edit _ => ⟨?_, ?_, ?_, ?_, ?_⟩
  · simp only [after, h.buffer]
  · simp only [after, h.checksums]
  · simp only [after, h.warnings, hwarnings]
  · exact fun other hne => get?_advance_congr (h.others other hne)
  · by_cases hleaf : ∃ config', leaf = .counter id config'
    -- What follows on the same value is stored on both sides. A counter that cannot be sent stays
    -- as different as it was.
    · obtain ⟨config', rfl⟩ := hleaf
      have htick := tick?_of_seeded (c := c) hseed hconfig h rfl
      simp only [after, advance, htick]
      cases c.tick? id config' a.counters with
      | none => exact h.counter
      | some tick => exact .inr (CounterStore.get?_set_self.trans CounterStore.get?_set_self.symm)
    · have hne := not_exists.mp hleaf
      simp only [after, get?_advance_of_ne hne]
      exact h.counter

theorem emissions_cons_eq (leaf : Leaf) (leaves : List Leaf) (a : Assembly) :
    c.emissions (leaf :: leaves) a =
      match c.put a leaf with
      | .ok b => emission leaf a b ++ c.emissions leaves b
      | .error _ => [] := by
  rw [emissions, put]
  cases c.placeLeaf leaf a <;> rfl

theorem emissions_of_seeded (hseed : config.StartsAs value)
    (hconfig : ∀ config', .counter id config' ∈ leaves → config' = config)
    (h : a.Seeded id value b) : c.emissions leaves b = c.emissions leaves a := by
  induction leaves generalizing a b with
  | nil => rfl
  | cons leaf leaves ih =>
    have hput := seeded_put (c := c) hseed
      (fun config' hleaf => hconfig config' (hleaf ▸ List.mem_cons_self)) h
    rw [emissions_cons_eq, emissions_cons_eq]
    generalize c.put a leaf = x at hput ⊢
    generalize c.put b leaf = y at hput ⊢
    cases hput with
    | error e => rfl
    | @ok x y hxy =>
      have hemission : emission leaf b y = emission leaf a x := by
        simp only [emission, h.buffer, h.warnings, hxy.buffer, hxy.warnings]
      dsimp only
      rw [hemission, ih (fun config' hmem => hconfig config' (List.mem_cons_of_mem _ hmem)) hxy]

theorem foldlM_put_eq_ok_iff :
    leaves.foldlM c.put a = .ok b ↔ leaves.forM c.placeLeaf a = .ok () b := by
  rw [foldlM_put]
  cases leaves.forM c.placeLeaf a <;> simp

/-- A counter value means the same as hex text in the configuration and in the store: cutting the
text to a width is cutting the bytes that it spells. So for a counter with a current value that can
be read exactly, it makes no difference to a frame whether this value is stored for it or nothing
is, in any store. The same counters are sent with the same values, all other counters are left
alike, and if the counter itself was sent then the stores end up equal. -/
theorem configured_as_stored :
    (∀ (text : String) (bytes : Bytes) (width : Nat), Hex.readExact text = .ok bytes →
      2 * width < UInt64.size → Counter.ofText text width = Counter.fitWidth bytes width) ∧
    ∀ (p : Project) (t : Token) (config : CounterConfig) (text : String) (bytes : Bytes),
      p.tokens.Keyed → t ∈ p.tokens.tokens → t.kind = .counter config →
      config.currentValue = some text → Hex.digits text.toList ≠ [] →
      Hex.readExact text = .ok bytes → 2 * config.bytes.toNat < UInt64.size →
      ∀ (c : Compiler) (store : CounterStore),
        ∃ stored, store.setHex t.id text = .ok stored ∧
          let emissions := fun counters =>
            c.emissions (c.leaves p.tokens p.template.segments) { counters }
          emissions (store.forget t.id) = emissions stored ∧
          Alike
            (fun frame frame' => frame'.sent = frame.sent ∧ frame'.raw = frame.raw ∧
              frame'.checksums = frame.checksums ∧ frame'.warnings = frame.warnings ∧
              (∀ id, id ≠ t.id → frame'.counters.get? id = frame.counters.get? id) ∧
              ((∃ e ∈ emissions stored, e.counter = t.id) → frame'.counters = frame.counters))
            (p.compile c stored) (p.compile c (store.forget t.id)) := by
  refine ⟨fun _ _ _ h hbits => Counter.ofText_eq_fitWidth hbits h, ?_⟩
  intro p t config text bytes hkeyed ht hkind htext hdigit hread hbits c store
  have hset : store.setHex t.id text = .ok (store.set t.id bytes) := by
    rw [CounterStore.setHex, hread, Except.map]
  have hseed : config.StartsAs bytes := by
    rw [CounterConfig.StartsAs, CounterConfig.seed_eq htext hdigit,
      Counter.ofText_eq_fitWidth hbits hread]
  have hconfig : ∀ config', .counter t.id config' ∈ c.leaves p.tokens p.template.segments →
      config' = config := fun config' => config_eq_of_mem_leaves hkeyed ht hkind
  have hstart := Assembly.seeded_start store t.id bytes
  have hemissions := emissions_of_seeded (c := c) hseed hconfig hstart
  have hrun : Alike (Assembly.Seeded t.id bytes)
      ((c.leaves p.tokens p.template.segments).foldlM c.put { counters := store.set t.id bytes })
      ((c.leaves p.tokens p.template.segments).foldlM c.put { counters := store.forget t.id }) := by
    refine Alike.foldlM (fun leaf hleaf a b hab => ?_) hstart
    exact seeded_put hseed (fun config' heq => hconfig config' (heq ▸ hleaf)) hab
  refine ⟨store.set t.id bytes, hset, hemissions, ?_⟩
  rw [Project.compile, Project.compile, compile_eq_foldlM, compile_eq_foldlM]
  refine hrun.attach.map fun a b hab => ?_
  obtain ⟨h, -, hb⟩ := hab
  refine ⟨?_, h.buffer, h.checksums, h.warnings, h.others, ?_⟩
  · simp only [finish, h.buffer]
  rintro ⟨e, he, hsent⟩
  dsimp only at he
  rw [← hemissions] at he
  have hstored := isSome_get?_of_emitted (foldlM_put_eq_ok_iff.mp hb) he
  rw [hsent] at hstored
  exact h.counters_eq hstored

open Sample in
/-- The current value spells three bytes, blanks standing between the digits of one, and the counter
has two; it stands in a container too, and there is a warning. Something else was stored before. -/
theorem configured_as_stored_cut :
    let seq := token "seq" (.counter { bytes := 2, currentValue := some "AB 0\u00a0F FF" })
    let box := token "box" (.container (.ofSegments [reference "b1" "seq"]))
    let p := project [reference "s1" "box", literal "s2" "7", reference "s3" "seq"] [seq, box]
    let store := CounterStore.empty.set seq.id [0x12, 0x34]
    Counter.ofText "AB 0\u00a0F FF" 2 = Counter.fitWidth [0xAB, 0x0F, 0xFF] 2 ∧
      ∃ stored frame frame', store.setHex seq.id "AB 0\u00a0F FF" = .ok stored ∧
        p.compile {} stored = .ok frame ∧ p.compile {} (store.forget seq.id) = .ok frame' ∧
        frame.raw = [0x0F, 0xFF, 0x10, 0x00] ∧ frame.degraded ∧ frame'.raw = frame.raw ∧
        frame'.warnings = frame.warnings ∧ frame'.counters = frame.counters := by
  intro seq box p store
  have hkeyed : p.tokens.Keyed := by decide +kernel
  have hseq : seq ∈ p.tokens.tokens := by decide +kernel
  have hdigit : Hex.digits "AB 0\u00a0F FF".toList ≠ [] := by decide +kernel
  have hread : Hex.readExact "AB 0\u00a0F FF" = .ok [0xAB, 0x0F, 0xFF] := by decide +kernel
  obtain ⟨htext, hcompile⟩ := configured_as_stored
  obtain ⟨stored, hset, -, halike⟩ :=
    hcompile p seq _ _ _ hkeyed hseq rfl rfl hdigit hread (by decide) {} store
  have hstored : store.setHex seq.id "AB 0\u00a0F FF" =
      .ok (store.set seq.id [0xAB, 0x0F, 0xFF]) := by
    decide +kernel
  obtain rfl := Except.ok.inj (hstored.symm.trans hset)
  let frame : Frame :=
    ⟨[0x0F, 0xFF, 0x10, 0x00], [0x0F, 0xFF, 0x10, 0x00], [],
      [.truncatedNibble (.literal ⟨"s2"⟩) '7'], .set .empty seq.id [0x10, 0x01]⟩
  have hframe : p.compile {} (store.set seq.id [0xAB, 0x0F, 0xFF]) = .ok frame := by decide +kernel
  have hframe' : p.compile {} (store.forget seq.id) = .ok frame := by decide +kernel
  have hsent : ∃ e ∈ Compiler.emissions {} (Compiler.leaves {} p.tokens p.template.segments)
      { counters := store.set seq.id [0xAB, 0x0F, 0xFF] }, e.counter = seq.id := by
    decide +kernel
  rw [hframe, hframe'] at halike
  obtain ⟨-, hraw, -, hwarnings, -, hcounters⟩ := halike.of_ok
  exact ⟨htext _ _ 2 hread (by decide), _, frame, frame, hset, hframe, hframe', rfl, rfl, hraw,
    hwarnings, hcounters hsent⟩

end Compiler

end SerialFrame
