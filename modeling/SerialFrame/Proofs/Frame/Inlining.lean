import SerialFrame.Proofs.Frame.Depth
import SerialFrame.Proofs.Frame.Run
import SerialFrame.Sample.Projects

/-!
# Containers are inlined

A compile goes in two stages: the template is expanded, which looks at the table and the limit only,
and the leaves are then put into the frame one after another. `compile_inlines_containers` states
both, and that a reference to a container without containers in it may be replaced by its children.
-/

namespace SerialFrame

namespace Leaf

variable {tokens : TokenTable} {limit : Nat} {expanding expanding' : List TokenId}
  {segment : Segment} {segments : List Segment} {id : TokenId}

theorem ofSegment_of_not_container {inside inside' : List TokenId → List Segment → List Leaf}
    (h : ∀ id, segment.tokenId? = some id → tokens.container? id = none) :
    ofSegment tokens limit inside expanding segment =
      ofSegment tokens limit inside' expanding' segment := by
  unfold ofSegment
  cases hkind : segment.kind with
  | literal content => rfl
  | token id =>
    dsimp only
    cases hget : tokens.get? id with
    | none => rfl
    | some t =>
      have hnone : t.children? = none := by
        have := h id (Segment.tokenId?_eq_some_iff.mpr hkind)
        rwa [TokenTable.container?, hget, Option.bind_some] at this
      dsimp only
      unfold ofToken
      cases hkind : t.kind with
      | checksum | flag | timestamp | counter | unknown => rfl
      | container children =>
        rw [TokenTable.children?_eq_some_iff.mpr hkind] at hnone
        cases hnone

theorem under_of_not_container
    (h : ∀ s ∈ segments, ∀ id, s.tokenId? = some id → tokens.container? id = none) :
    under tokens limit expanding segments = under tokens limit expanding' segments := by
  rw [under_eq, under_eq]
  exact List.flatMap_congr fun s hs => ofSegment_of_not_container (h s hs)

theorem under_reference {children : Template} (hsegment : segment.tokenId? = some id)
    (hcontainer : tokens.container? id = some children) (hlimit : 1 ≤ limit) :
    ∃ own, under tokens limit [] [segment] = under tokens limit [own] children.segments := by
  have hkind := Segment.tokenId?_eq_some_iff.mp hsegment
  obtain ⟨t, hget, hchildren⟩ := Option.bind_eq_some_iff.mp hcontainer
  have hchildren := TokenTable.children?_eq_some_iff.mp hchildren
  have hdeep : ¬ limit ≤ ([] : List TokenId).length := by
    rw [List.length_nil]
    omega
  refine ⟨t.id, ?_⟩
  rw [under_eq, List.flatMap_singleton]
  simp only [ofSegment, hkind, hget, ofToken, hchildren]
  rw [if_neg List.not_mem_nil, if_neg hdeep, List.nil_append]

end Leaf

namespace Compiler

variable {c : Compiler} {tokens : TokenTable} {store : CounterStore}

theorem leaves_append (xs ys : List Segment) :
    c.leaves tokens (xs ++ ys) = c.leaves tokens xs ++ c.leaves tokens ys :=
  Leaf.under_append xs ys

theorem foldlM_put (leaves : List Leaf) (a : Assembly) :
    leaves.foldlM c.put a = match leaves.forM c.placeLeaf a with
      | .ok _ b => .ok b
      | .error e _ => .error e := by
  induction leaves generalizing a with
  | nil => rfl
  | cons leaf rest ih =>
    rw [List.foldlM_cons, Build.run_forM_cons, put]
    cases c.placeLeaf leaf a with
    | ok u b => exact ih b
    | error e b => rfl

theorem compile_eq_foldlM (segments : List Segment) :
    c.compile segments tokens store =
      ((c.leaves tokens segments).foldlM c.put { counters := store }).map c.finish := by
  rw [compile_eq_compileLeaves, compileLeaves, foldlM_put]
  cases (c.leaves tokens segments).forM c.placeLeaf { counters := store } <;> rfl

/-- A template is compiled by expanding it and then putting its leaves into the frame from left to
right, up to the first error. The expansion is fixed by the table and the limit: a reference to a
container that is neither open nor one too many is replaced by its children. So a reference to a
container that refers to no containers may be replaced by its children anywhere. -/
theorem compile_inlines_containers (c : Compiler) (tokens : TokenTable) (store : CounterStore) :
    let leaves := Leaf.under tokens c.options.maxContainerDepth
    (∀ expanding segments, leaves expanding segments =
      segments.flatMap (Leaf.ofSegment tokens c.options.maxContainerDepth leaves expanding)) ∧
    (∀ segments, c.compile segments tokens store =
      ((leaves [] segments).foldlM c.put { counters := store }).map c.finish) ∧
    ∀ segment id children, segment.tokenId? = some id → tokens.container? id = some children →
      (∀ s ∈ children.segments, ∀ id, s.tokenId? = some id → tokens.container? id = none) →
      1 ≤ c.options.maxContainerDepth → ∀ before after,
        c.compile (before ++ [segment] ++ after) tokens store =
          c.compile (before ++ children.segments ++ after) tokens store := by
  intro leaves
  refine ⟨fun expanding segments => Leaf.under_eq segments, fun segments => compile_eq_foldlM segments,
    fun segment id children hsegment hcontainer hflat hlimit before after => ?_⟩
  obtain ⟨own, hown⟩ := Leaf.under_reference hsegment hcontainer hlimit
  have hleaves : leaves [] [segment] = leaves [] children.segments :=
    hown.trans (Leaf.under_of_not_container hflat)
  have hall : c.leaves tokens (before ++ [segment] ++ after) =
      c.leaves tokens (before ++ children.segments ++ after) := by
    change leaves [] _ = leaves [] _
    simp only [leaves, Leaf.under_append] at hleaves ⊢
    rw [hleaves]
  rw [compile_eq_foldlM, compile_eq_foldlM, hall]

open Sample in
/-- A checksum, a counter and a warning are those of the children also inside of the container. -/
theorem compile_inlines_containers_body :
    let children := Template.ofSegments [reference "b1" "seq", literal "b2" "0A 0", reference "b3" "crc"]
    let tokens := TokenTable.ofTokens [token "body" (.container children),
      token "seq" (.counter { bytes := 1 }), token "crc" (.checksum (wholeFrame .crc16Modbus))]
    let c := Compiler.mk { maxContainerDepth := 1 } ⟨0⟩
    ∃ frame, c.compile [literal "s1" "01", reference "s2" "body", reference "s3" "seq"] tokens .empty =
        .ok frame ∧
      c.compile ([literal "s1" "01"] ++ children.segments ++ [reference "s3" "seq"]) tokens .empty =
        .ok frame ∧
      frame.raw = [0x01, 0x00, 0x0A, 0xA0, 0x07, 0x01] ∧
      frame.warnings = [.truncatedNibble (.literal ⟨"b2"⟩) '0'] := by
  intro children tokens c
  let frame : Frame :=
    { sent := [0x01, 0x00, 0x0A, 0xA0, 0x07, 0x01]
      raw := [0x01, 0x00, 0x0A, 0xA0, 0x07, 0x01]
      checksums := [⟨⟨"crc"⟩, .crc16Modbus, 0, 3, [0xA0, 0x07]⟩]
      warnings := [.truncatedNibble (.literal ⟨"b2"⟩) '0']
      counters := .set .empty ⟨"seq"⟩ [0x02] }
  have hinlined := (compile_inlines_containers c tokens .empty).2.2 (reference "s2" "body") ⟨"body"⟩
    children rfl (by decide +kernel) (by decide +kernel) (by decide) [literal "s1" "01"]
    [reference "s3" "seq"]
  have hframe : c.compile [literal "s1" "01", reference "s2" "body", reference "s3" "seq"] tokens
      .empty = .ok frame := by decide +kernel
  exact ⟨frame, hframe, hinlined.symm.trans hframe, rfl, rfl⟩

end Compiler

end SerialFrame
