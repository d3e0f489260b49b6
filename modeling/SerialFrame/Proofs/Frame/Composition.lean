import SerialFrame.Proofs.Frame.Alike
import SerialFrame.Proofs.Frame.Uses
import SerialFrame.Sample.Projects

/-!
# One template after another

What segments without a checksum put into a frame does not depend on what is there already: placed
on top of a frame half done they do what they do on their own (`alike_put_followedBy`). So a
template and such a continuation may be compiled separately, and in any case a continuation only
adds to the checksums and warnings (`compile_append`).
-/

namespace SerialFrame

/-- The frame half done `a` with what was put into `b` behind it, no checksum being in that. -/
def Assembly.followedBy (a b : Assembly) : Assembly :=
  { a with
    buffer := a.buffer ++ b.buffer
    warnings := a.warnings ++ b.warnings
    counters := b.counters }

namespace Compiler

variable {c : Compiler} {tokens : TokenTable} {store : CounterStore} {a b : Assembly} {leaf : Leaf}

theorem edit_of_not_checksum (h : leaf.checksum? = none) (a : Assembly) :
    c.edit a leaf = .ok (.append (c.payload a.counters leaf)) := by
  cases leaf with
  | checksum => cases h
  | text | timestamp | counter | unknown | dangling | recursive | tooDeep => rfl

theorem warnings_of_not_checksum (h : leaf.checksum? = none) (a b : Assembly) :
    c.warnings b leaf = c.warnings a leaf := by
  cases leaf with
  | checksum => cases h
  | text | timestamp | counter | unknown | dangling | recursive | tooDeep => rfl

theorem alike_put_followedBy (h : leaf.checksum? = none) (a b : Assembly) :
    Alike (fun x y => y = a.followedBy x) (c.put b leaf) (c.put (a.followedBy b) leaf) := by
  have hwarnings := warnings_of_not_checksum (c := c) h b (a.followedBy b)
  have hedit : c.edit (a.followedBy b) leaf = c.edit b leaf := by
    rw [edit_of_not_checksum h, edit_of_not_checksum h]
    rfl
  refine alike_put hedit hwarnings fun edit hresult => ?_
  rw [edit_of_not_checksum h] at hresult
  rw [← Except.ok.inj hresult, after, after, hwarnings]
  simp [Assembly.followedBy, Edit.apply, Edit.on]

theorem foldlM_put_followedBy {leaves : List Leaf} (h : ∀ leaf ∈ leaves, leaf.checksum? = none)
    (a : Assembly) :
    leaves.foldlM c.put a =
      (leaves.foldlM c.put { counters := a.counters }).map a.followedBy := by
  have hstart : a = a.followedBy { counters := a.counters } := by
    simp [Assembly.followedBy]
  refine Alike.eq_map (Alike.foldlM (fun leaf hleaf x y hxy => ?_) hstart)
  rw [hxy]
  exact alike_put_followedBy (h leaf hleaf) a x

theorem run_prefix {leaves : List Leaf} (hrun : leaves.forM c.placeLeaf a = .ok () b) :
    a.checksums <+: b.checksums ∧ a.warnings <+: b.warnings := by
  refine run_invariant (P := fun _ x => a.checksums <+: x.checksums ∧ a.warnings <+: x.warnings)
    hrun ⟨List.prefix_rfl, List.prefix_rfl⟩ fun _ leaf x edit _ h _ => ?_
  exact ⟨h.1.trans (List.prefix_append _ _), h.2.trans (List.prefix_append _ _)⟩

/-- If the segments `ys` use no checksum then `xs` and `ys` together are compiled by compiling `xs`,
then `ys` with the counters that this leaves, and putting the second frame behind the first; the
first error counts. Whatever `ys` are, a frame of both begins with the checksums and with the
warnings of a frame of `xs`, which can then be made too. -/
theorem compile_append (c : Compiler) (xs ys : List Segment) (tokens : TokenTable)
    (store : CounterStore) :
    ((∀ id, ¬ tokens.UsesChecksum ys id) →
      c.compile (xs ++ ys) tokens store = do
        let a ← c.compile xs tokens store
        let b ← c.compile ys tokens a.counters
        return {
          sent := c.options.mode.encode (a.raw ++ b.raw)
          raw := a.raw ++ b.raw
          checksums := a.checksums
          warnings := a.warnings ++ b.warnings
          counters := b.counters }) ∧
    ∀ frame, c.compile (xs ++ ys) tokens store = .ok frame →
      ∃ a, c.compile xs tokens store = .ok a ∧ a.checksums <+: frame.checksums ∧
        a.warnings <+: frame.warnings := by
  constructor
  · intro hnone
    have hleaves : ∀ leaf ∈ c.leaves tokens ys, leaf.checksum? = none := by
      intro leaf hleaf
      cases leaf with
      | checksum id config =>
        obtain ⟨key, t, huses, hget, -, hkind⟩ := Leaf.usedIn_of_mem_under [] ys _ hleaf
        exact absurd ⟨huses, t, config, hget, hkind⟩ (hnone key)
      | text | timestamp | counter | unknown | dangling | recursive | tooDeep => rfl
    rw [compile_eq_foldlM, compile_eq_foldlM, leaves_append, List.foldlM_append]
    cases (c.leaves tokens xs).foldlM c.put { counters := store } with
    | error e => rfl
    | ok a =>
      change ((c.leaves tokens ys).foldlM c.put a).map c.finish =
        (c.compile ys tokens a.counters).bind _
      rw [compile_eq_foldlM, foldlM_put_followedBy hleaves a]
      cases (c.leaves tokens ys).foldlM c.put { counters := a.counters } <;> rfl
  · intro frame hframe
    obtain ⟨b, hrun, rfl⟩ := compile_eq_ok_iff.mp hframe
    rw [leaves_append, Build.run_forM_append] at hrun
    cases hfirst : (c.leaves tokens xs).forM c.placeLeaf { counters := store } with
    | error e a =>
      rw [hfirst] at hrun
      cases hrun
    | ok u a =>
      rw [hfirst] at hrun
      exact ⟨c.finish a, compile_eq_ok_iff.mpr ⟨a, hfirst, rfl⟩, run_prefix hrun⟩

open Sample in
/-- A frame with a checksum is continued with its counter, inside of a container, and with a warning,
and another time with a second checksum. -/
theorem compile_append_sequenced :
    let box := token "box" (.container (.ofSegments [reference "b1" "seq", literal "b2" "A"]))
    let tokens := sequenced.tokens.insert box
    let c := fixedCompiler .hex
    ∃ a b frame again, c.compile sequenced.template.segments tokens .empty = .ok a ∧
      c.compile [reference "s5" "box"] tokens a.counters = .ok b ∧
      c.compile (sequenced.template.segments ++ [reference "s5" "box"]) tokens .empty = .ok frame ∧
      b.raw = [0xFF] ∧ frame.raw = a.raw ++ b.raw ∧
      a.checksums ≠ [] ∧ frame.checksums = a.checksums ∧
      frame.warnings = [.truncatedNibble (.literal ⟨"b2"⟩) 'A'] ∧
      c.compile (sequenced.template.segments ++ [reference "s6" "crc"]) tokens .empty = .ok again ∧
      again.checksums.length = 2 ∧ a.checksums <+: again.checksums := by
  intro box tokens c
  let a : Frame :=
    { sent := [0x7E, 0xFE, 0x10, 0x20, 0x13, 0xDE, 0x0D]
      raw := [0x7E, 0xFE, 0x10, 0x20, 0x13, 0xDE, 0x0D]
      checksums := [⟨⟨"crc"⟩, .crc16Ccitt, 1, 4, [0x13, 0xDE]⟩]
      warnings := []
      counters := .set .empty ⟨"seq"⟩ [0xFF] }
  let b : Frame :=
    { sent := [0xFF]
      raw := [0xFF]
      checksums := []
      warnings := [.truncatedNibble (.literal ⟨"b2"⟩) 'A']
      counters := .set .empty ⟨"seq"⟩ [0x00] }
  let again : Frame :=
    { a with
      sent := [0x7E, 0xFE, 0x10, 0x20, 0x13, 0xDE, 0x00, 0x00, 0x0D]
      raw := [0x7E, 0xFE, 0x10, 0x20, 0x13, 0xDE, 0x00, 0x00, 0x0D]
      checksums := a.checksums ++ [⟨⟨"crc"⟩, .crc16Ccitt, 1, 6, [0x00, 0x00]⟩] }
  have ha : c.compile sequenced.template.segments tokens .empty = .ok a := by decide +kernel
  have hb : c.compile [reference "s5" "box"] tokens a.counters = .ok b := by decide +kernel
  have hagain : c.compile (sequenced.template.segments ++ [reference "s6" "crc"]) tokens .empty =
      .ok again := by
    decide +kernel
  have hused : ∀ id, tokens.Uses [reference "s5" "box"] id → id ∈ [box.id, ⟨"seq"⟩] :=
    fun id => TokenTable.Uses.mem_of_closed (by decide +kernel) (by decide +kernel)
  have hnames : ∀ id ∈ [box.id, ⟨"seq"⟩], ∀ t ∈ tokens.get? id, t.kind.name ≠ "checksum" := by
    decide +kernel
  have hnone : ∀ id, ¬ tokens.UsesChecksum [reference "s5" "box"] id := by
    rintro id ⟨hid, t, config, hget, hkind⟩
    refine hnames id (hused id hid) t hget ?_
    rw [hkind, TokenKind.name]
  have hboth := (compile_append c sequenced.template.segments [reference "s5" "box"] tokens
    .empty).1 hnone
  rw [ha] at hboth
  change c.compile _ tokens .empty = (c.compile [reference "s5" "box"] tokens a.counters).bind _ at hboth
  rw [hb] at hboth
  obtain ⟨a', ha', hchecksums, -⟩ := (compile_append c _ _ tokens .empty).2 again hagain
  obtain rfl := Except.ok.inj (ha.symm.trans ha')
  exact ⟨a, b, _, again, ha, hb, hboth, rfl, rfl, List.cons_ne_nil _ _, rfl, rfl, hagain, rfl, hchecksums⟩

end Compiler

end SerialFrame
