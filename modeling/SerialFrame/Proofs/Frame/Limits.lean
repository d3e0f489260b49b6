import SerialFrame.Proofs.Frame.Alike
import SerialFrame.Proofs.Frame.Reference
import SerialFrame.Sample.Projects

/-!
# Raised limits

A limit that nothing has run into may be raised without any effect. The expansion stays as it is if
no container was too deep (`Leaf.under_of_limit_le`), and a leaf is placed in the same way if it is
no counter that was too wide (`put_withLimits`): `limits_only_guard`.
-/

namespace SerialFrame

namespace Leaf

variable {tokens : TokenTable} {limit limit' : Nat} {expanding : List TokenId} {segment : Segment}

theorem ofSegment_of_limit_le {inside inside' : List TokenId → List Segment → List Leaf}
    (hle : limit ≤ limit')
    (hnone : ∀ id, .tooDeep id ∉ ofSegment tokens limit inside expanding segment)
    (hinside : ∀ key t children, segment.tokenId? = some key → tokens.get? key = some t →
      t.kind = .container children → t.id ∉ expanding →
        (∀ id, .tooDeep id ∉ inside (expanding ++ [t.id]) children.segments) →
          inside' (expanding ++ [t.id]) children.segments =
            inside (expanding ++ [t.id]) children.segments) :
    ofSegment tokens limit' inside' expanding segment =
      ofSegment tokens limit inside expanding segment := by
  unfold ofSegment at hnone ⊢
  cases hsegment : segment.kind with
  | literal content => rfl
  | token key =>
    rw [hsegment] at hnone
    dsimp only at hnone ⊢
    cases hget : tokens.get? key with
    | none => rfl
    | some t =>
      rw [hget] at hnone
      dsimp only at hnone ⊢
      unfold ofToken at hnone ⊢
      cases hkind : t.kind with
      | checksum | flag | timestamp | counter | unknown => rfl
      | container children =>
        rw [hkind] at hnone
        dsimp only at hnone ⊢
        by_cases hopen : t.id ∈ expanding
        · rw [if_pos hopen, if_pos hopen]
        rw [if_neg hopen] at hnone
        rw [if_neg hopen, if_neg hopen]
        by_cases hdeep : limit ≤ expanding.length
        · rw [if_pos hdeep] at hnone
          exact absurd (List.mem_singleton_self _) (hnone t.id)
        -- What the lower limit let in, the higher one does too.
        have hdeep' : ¬ limit' ≤ expanding.length := fun h => hdeep (hle.trans h)
        rw [if_neg hdeep] at hnone
        rw [if_neg hdeep, if_neg hdeep']
        have hkey := Segment.tokenId?_eq_some_iff.mpr hsegment
        exact hinside key t children hkey hget hkind hopen hnone

theorem under_of_limit_le (hle : limit ≤ limit') (expanding : List TokenId)
    (segments : List Segment)
    (hnone : ∀ id, .tooDeep id ∉ under tokens limit expanding segments) :
    under tokens limit' expanding segments = under tokens limit expanding segments := by
  induction expanding, segments using under_induction tokens with
  | step expanding segments ih =>
  rw [under_eq] at hnone
  rw [under_eq, under_eq]
  refine List.flatMap_congr fun segment hsegment => ?_
  refine ofSegment_of_limit_le hle (fun id hid => ?_) fun key t children hkey hget hkind hnot => ?_
  · exact hnone id (List.mem_flatMap.mpr ⟨segment, hsegment, hid⟩)
  · exact ih segment hsegment key t children hkey hget hkind hnot

end Leaf

namespace Compiler

variable {c : Compiler} {tokens : TokenTable} {segments : List Segment} {store : CounterStore}
  {frame : Frame} {depth width : Nat}

def withLimits (c : Compiler) (depth width : Nat) : Compiler :=
  { c with options := { c.options with maxContainerDepth := depth, maxCounterWidth := width } }

/-- A leaf is placed in the same way under other limits, unless it is a container that was too deep
or a counter that is too wide for one of the two. -/
theorem put_withLimits {leaf : Leaf} (hdeep : ∀ id, leaf ≠ .tooDeep id)
    (hwide : ∀ id config, leaf = .counter id config →
      config.bytes.toNat ≤ c.options.maxCounterWidth ∧ config.bytes.toNat ≤ width)
    (a : Assembly) : (c.withLimits depth width).put a leaf = c.put a leaf := by
  have hfits : ∀ id config, leaf = .counter id config →
      ¬ c.options.maxCounterWidth < config.bytes.toNat ∧
        ¬ (c.withLimits depth width).options.maxCounterWidth < config.bytes.toNat :=
    fun id config hleaf => (hwide id config hleaf).imp Nat.not_lt.mpr Nat.not_lt.mpr
  have htick : ∀ id config, leaf = .counter id config → ∀ s,
      (c.withLimits depth width).tick? id config s = c.tick? id config s := by
    intro id config hleaf s
    obtain ⟨hold, hnew⟩ := hfits id config hleaf
    rw [tick?, tick?, if_neg hold, if_neg hnew]
  have hedit : (c.withLimits depth width).edit a leaf = c.edit a leaf := by
    cases leaf with
    | counter id config => simp only [edit, payload, payload?, htick id config rfl]
    | text | timestamp | checksum | unknown | dangling | recursive | tooDeep => rfl
  have hwarnings : (c.withLimits depth width).warnings a leaf = c.warnings a leaf := by
    cases leaf with
    | counter id config =>
      obtain ⟨hold, hnew⟩ := hfits id config rfl
      rw [warnings, warnings, if_neg hold, if_neg hnew]
    | tooDeep id => exact absurd rfl (hdeep id)
    | text | timestamp | checksum | unknown | dangling | recursive => rfl
  have hadvance :
      (c.withLimits depth width).advance a.counters leaf = c.advance a.counters leaf := by
    cases leaf with
    | counter id config => simp only [advance, htick id config rfl]
    | text | timestamp | checksum | unknown | dangling | recursive | tooDeep => rfl
  have hafter : (c.withLimits depth width).after a leaf = c.after a leaf := by
    funext edit
    simp only [after, hwarnings, hadvance]
  rw [put_eq, put_eq, hedit, hwarnings, hafter]
  rfl

theorem foldlM_put_congr {c' : Compiler} {leaves : List Leaf}
    (h : ∀ leaf ∈ leaves, ∀ a, c'.put a leaf = c.put a leaf) (a : Assembly) :
    leaves.foldlM c'.put a = leaves.foldlM c.put a := by
  induction leaves generalizing a with
  | nil => rfl
  | cons leaf rest ih =>
    obtain ⟨hleaf, hrest⟩ := List.forall_mem_cons.mp h
    rw [List.foldlM_cons, List.foldlM_cons, hleaf]
    exact congrArg _ (funext (ih hrest))

theorem counterTooWide_mem_warnings_iff {a : Assembly} {leaf : Leaf} {id : TokenId} {bytes : UInt64}
    {n : Nat} :
    .counterTooWide id bytes n ∈ c.warnings a leaf ↔
      ∃ config, leaf = .counter id config ∧ config.bytes = bytes ∧
        c.options.maxCounterWidth < bytes.toNat ∧ n = c.options.maxCounterWidth := by
  cases leaf with
  | counter token config =>
    rw [warnings]
    by_cases hwide : c.options.maxCounterWidth < config.bytes.toNat
    · rw [if_pos hwide]
      constructor
      · intro h
        obtain ⟨rfl, rfl, rfl⟩ := Warning.counterTooWide.inj (List.mem_singleton.mp h)
        exact ⟨config, rfl, rfl, hwide, rfl⟩
      · rintro ⟨config', hleaf, rfl, -, rfl⟩
        obtain ⟨rfl, rfl⟩ := Leaf.counter.inj hleaf
        exact List.mem_singleton_self _
    · rw [if_neg hwide]
      constructor
      · intro h
        split at h <;> simp at h
      · rintro ⟨config', hleaf, rfl, hlt, -⟩
        obtain ⟨rfl, rfl⟩ := Leaf.counter.inj hleaf
        exact absurd hlt hwide
  | checksum token config =>
    simp only [warnings, reduceCtorEq, false_and, exists_false, iff_false]
    split
    · split <;> simp
    · simp
  | text | timestamp | unknown | dangling | recursive | tooDeep =>
    simp [warnings, Hex.Reading.warnings]

/-- The limits only guard. A frame in which no container was too deep and no counter too wide is
made under all higher limits too, and it is the same to the last byte, record and warning. -/
theorem limits_only_guard (h : c.compile segments tokens store = .ok frame)
    (hdeep : ∀ id n, .containerTooDeep id n ∉ frame.warnings)
    (hwide : ∀ id bytes n, .counterTooWide id bytes n ∉ frame.warnings)
    (hdepth : c.options.maxContainerDepth ≤ depth) (hwidth : c.options.maxCounterWidth ≤ width) :
    (c.withLimits depth width).compile segments tokens store = .ok frame := by
  have hnone : ∀ id, .tooDeep id ∉ c.leaves tokens segments := by
    intro id hmem
    refine hdeep id c.options.maxContainerDepth ?_
    exact (mem_warnings_iff (fun _ _ => not_opened_mem_warnings_iff.2 _) h).mpr ⟨_, hmem, rfl, rfl⟩
  have hcounters : ∀ id config, .counter id config ∈ c.leaves tokens segments →
      config.bytes.toNat ≤ c.options.maxCounterWidth := by
    intro id config hmem
    by_contra hlt
    refine hwide id config.bytes c.options.maxCounterWidth ?_
    exact (mem_warnings_iff (fun _ _ => counterTooWide_mem_warnings_iff) h).mpr
      ⟨_, hmem, config, rfl, rfl, Nat.not_le.mp hlt, rfl⟩
  have hleaves : (c.withLimits depth width).leaves tokens segments = c.leaves tokens segments :=
    Leaf.under_of_limit_le hdepth [] segments hnone
  have hput : ∀ leaf ∈ c.leaves tokens segments, ∀ a,
      (c.withLimits depth width).put a leaf = c.put a leaf := by
    rintro leaf hmem a
    refine put_withLimits ?_ ?_ a
    · rintro id rfl
      exact hnone id hmem
    · rintro id config rfl
      exact ⟨hcounters id config hmem, (hcounters id config hmem).trans hwidth⟩
  rw [compile_eq_foldlM] at h
  rw [compile_eq_foldlM, hleaves, foldlM_put_congr hput]
  exact h

open Sample in
/-- A container that refers to itself is opened as far as the limit allows, and the counter in it is
as wide as it may be. -/
theorem limits_only_guard_at_limit :
    let box := token "box" (.container (.ofSegments [reference "b1" "box", reference "b2" "seq"]))
    let tokens := TokenTable.ofTokens [box, token "seq" (.counter { bytes := 2 })]
    let segments := [reference "s1" "box", reference "s2" "seq"]
    let c := Compiler.mk { maxContainerDepth := 1, maxCounterWidth := 2 } ⟨0⟩
    ∃ frame, c.compile segments tokens .empty = .ok frame ∧
      frame.raw = [0x00, 0x00, 0x00, 0x01] ∧ frame.warnings = [.recursiveContainer box.id] ∧
      (c.withLimits 16 32).compile segments tokens .empty = .ok frame := by
  intro box tokens segments c
  let frame : Frame :=
    { sent := [0x00, 0x00, 0x00, 0x01]
      raw := [0x00, 0x00, 0x00, 0x01]
      checksums := []
      warnings := [.recursiveContainer box.id]
      counters := .set .empty ⟨"seq"⟩ [0x00, 0x02] }
  have hframe : c.compile segments tokens .empty = .ok frame := by decide +kernel
  have hdeep : ∀ id n, .containerTooDeep id n ∉ frame.warnings := by simp [frame]
  have hwide : ∀ id bytes n, .counterTooWide id bytes n ∉ frame.warnings := by simp [frame]
  exact ⟨frame, hframe, rfl, rfl, limits_only_guard hframe hdeep hwide (by decide) (by decide)⟩

end Compiler

end SerialFrame
