import SerialFrame.Frame.Reference
import SerialFrame.Proofs.Frame.Alike
import SerialFrame.Sample.Projects

/-!
# Frames that are refused

When warnings do not count, a checksum of an unknown algorithm is the one thing that ends the work,
and the first of them gives the error (`foldlM_put_eq_error_iff`). A checksum stands among the
leaves if the walk meets its token (`checksum_mem_under_iff`). `lenient_fails_iff` puts this
together.
-/

namespace SerialFrame

namespace Leaf

variable {tokens : TokenTable} {limit : Nat} {expanding : List TokenId} {segment : Segment}
  {segments : List Segment} {id : TokenId} {config : ChecksumConfig}

theorem checksum_mem_ofSegment_iff {inside : List TokenId → List Segment → List Leaf} :
    .checksum id config ∈ ofSegment tokens limit inside expanding segment ↔
      ∃ key t, segment.tokenId? = some key ∧ tokens.get? key = some t ∧
        ((t.id = id ∧ t.kind = .checksum config) ∨
          ∃ children, t.kind = .container children ∧ t.id ∉ expanding ∧ expanding.length < limit ∧
            .checksum id config ∈ inside (expanding ++ [t.id]) children.segments) := by
  unfold ofSegment Segment.tokenId?
  cases segment.kind with
  | literal content => simp
  | token key =>
    dsimp only
    cases hget : tokens.get? key with
    | none => simp [hget]
    | some t =>
      dsimp only
      unfold ofToken
      cases hkind : t.kind with
      | checksum other => simp [hget, hkind, eq_comm]
      | flag | timestamp | counter | unknown => simp [hget, hkind]
      | container children =>
        dsimp only
        by_cases hopen : t.id ∈ expanding
        · simp [hget, hkind, hopen]
        by_cases hdeep : limit ≤ expanding.length
        · simp [hget, hkind, hopen, hdeep, Nat.not_lt.mpr hdeep]
        · simp [hget, hkind, hopen, hdeep, Nat.not_le.mp hdeep]

theorem checksum_mem_under_iff :
    .checksum id config ∈ under tokens limit expanding segments ↔
      ∃ key t, tokens.Meets limit expanding segments key ∧ tokens.get? key = some t ∧ t.id = id ∧
        t.kind = .checksum config := by
  constructor
  · -- By the recursion of the expansion: a checksum stands at a segment or in what that opens.
    intro h
    induction expanding, segments using under_induction tokens with
    | step expanding segments ih =>
    rw [under_eq] at h
    obtain ⟨segment, hsegment, h⟩ := List.mem_flatMap.mp h
    obtain ⟨key, t, hkey, hget, hhere | ⟨children, hkind, hnot, hroom, h⟩⟩ :=
      checksum_mem_ofSegment_iff.mp h
    · exact ⟨key, t, .here ⟨segment, hsegment, hkey⟩, hget, hhere⟩
    · obtain ⟨key', t', hmeets, hfound⟩ := ih segment hsegment key t children hkey hget hkind hnot h
      exact ⟨key', t', .inside ⟨segment, hsegment, hkey⟩ hget hkind hnot hroom hmeets, hfound⟩
  · -- By the way down to the token: each container on it was closed and had room.
    rintro ⟨key, t, hmeets, hget, hid, hkind⟩
    induction hmeets with
    | here hrefers =>
      obtain ⟨segment, hsegment, hkey⟩ := hrefers
      rw [under_eq]
      exact List.mem_flatMap.mpr ⟨segment, hsegment,
        checksum_mem_ofSegment_iff.mpr ⟨_, t, hkey, hget, .inl ⟨hid, hkind⟩⟩⟩
    | inside hrefers hfound hcontains hnot hroom _ ih =>
      obtain ⟨segment, hsegment, hkey⟩ := hrefers
      rw [under_eq]
      exact List.mem_flatMap.mpr ⟨segment, hsegment, checksum_mem_ofSegment_iff.mpr
        ⟨_, _, hkey, hfound, .inr ⟨_, hcontains, hnot, hroom, ih hget⟩⟩⟩

end Leaf

namespace Compiler

variable {c : Compiler} {tokens : TokenTable} {segments : List Segment} {store : CounterStore}
  {a : Assembly}

theorem foldlM_put_eq_error_iff (hlenient : c.options.strict = false) {leaves : List Leaf}
    {e : FrameError} :
    leaves.foldlM c.put a = .error e ↔ leaves.findSome? Leaf.refusal? = some e := by
  induction leaves generalizing a with
  | nil => simp [pure, Except.pure]
  | cons leaf rest ih =>
    rw [List.foldlM_cons, List.findSome?_cons, put_lenient hlenient, effect]
    cases hedit : c.edit a leaf with
    | error e' =>
      rw [edit_eq_error_iff.mp hedit]
      simp [Except.map, bind, Except.bind]
    | ok edit =>
      have hnone : leaf.refusal? = none := by
        by_contra hsome
        obtain ⟨e', he'⟩ := Option.ne_none_iff_exists'.mp hsome
        rw [edit_eq_error_iff.mpr he'] at hedit
        cases hedit
      rw [hnone]
      exact ih

/-- When warnings do not count, no frame is made if and only if some checksum among the leaves has
an unknown algorithm. The error then names the token and the algorithm of the first of them,
whatever else stands in front of it. Such a checksum is among the leaves if the walk meets its
token; if that is not used, or only inside of containers that are not opened, it does no harm. -/
theorem lenient_fails_iff (hlenient : c.options.strict = false) (segments : List Segment)
    (tokens : TokenTable) (store : CounterStore) :
    (∀ e, c.compile segments tokens store = .error e ↔
      ∃ before id config after,
        c.leaves tokens segments = before ++ .checksum id config :: after ∧
        (∀ leaf ∈ before, leaf.refusal? = none) ∧
        Checksum.Algorithm.ofName? config.algorithm = none ∧
        e = .unsupportedAlgorithm id config.algorithm) ∧
    ((∃ e, c.compile segments tokens store = .error e) ↔
      ∃ key t config, tokens.Meets c.options.maxContainerDepth [] segments key ∧
        tokens.get? key = some t ∧ t.kind = .checksum config ∧
        Checksum.Algorithm.ofName? config.algorithm = none) := by
  have hcompile : ∀ e, c.compile segments tokens store = .error e ↔
      (c.leaves tokens segments).findSome? Leaf.refusal? = some e := by
    intro e
    rw [compile_eq_foldlM, ← foldlM_put_eq_error_iff hlenient]
    cases (c.leaves tokens segments).foldlM c.put { counters := store } <;> simp [Except.map]
  constructor
  · intro e
    rw [hcompile, List.findSome?_eq_some_iff]
    constructor
    · rintro ⟨before, leaf, after, hleaves, hleaf, hbefore⟩
      obtain ⟨id, config, rfl, hunknown, he⟩ := Leaf.refusal?_eq_some_iff.mp hleaf
      exact ⟨before, id, config, after, hleaves, hbefore, hunknown, he⟩
    · rintro ⟨before, id, config, after, hleaves, hbefore, hunknown, he⟩
      exact ⟨before, _, after, hleaves,
        Leaf.refusal?_eq_some_iff.mpr ⟨id, config, rfl, hunknown, he⟩, hbefore⟩
  · have hexists : (∃ e, c.compile segments tokens store = .error e) ↔
        ∃ leaf ∈ c.leaves tokens segments, ∃ e, leaf.refusal? = some e := by
      simp only [hcompile, ← Option.isSome_iff_exists, List.findSome?_isSome_iff]
    rw [hexists]
    constructor
    · rintro ⟨leaf, hmem, e, hleaf⟩
      obtain ⟨id, config, rfl, hunknown, -⟩ := Leaf.refusal?_eq_some_iff.mp hleaf
      obtain ⟨key, t, hmeets, hget, -, hkind⟩ := Leaf.checksum_mem_under_iff.mp hmem
      exact ⟨key, t, config, hmeets, hget, hkind, hunknown⟩
    · rintro ⟨key, t, config, hmeets, hget, hkind, hunknown⟩
      have hmem := Leaf.checksum_mem_under_iff.mpr ⟨key, t, hmeets, hget, rfl, hkind⟩
      exact ⟨_, hmem, _, Leaf.refusal?_eq_some_iff.mpr ⟨t.id, config, rfl, hunknown, rfl⟩⟩

open Sample in
/-- The first checksum stands in a container, behind a reference of that to itself and the warnings
of a literal and of a dangling reference. Under a limit of no containers the second one is the first
that is met, and a template that refers to the container only is compiled. -/
theorem lenient_fails_iff_nested :
    let box := token "box" (.container (.ofSegments [reference "b1" "box", reference "b2" "crc"]))
    let tokens := TokenTable.ofTokens [box, token "crc" (.checksum { algorithm := "Adler-32" }),
      token "sum" (.checksum { algorithm := "xor" })]
    let first := [literal "s1" "0A 0", reference "s2" "gone", reference "s3" "box"]
    let segments := first ++ [reference "s4" "sum"]
    let shallow := Compiler.mk { maxContainerDepth := 0 } ⟨0⟩
    Compiler.compile {} segments tokens .empty =
        .error (.unsupportedAlgorithm ⟨"crc"⟩ "Adler-32") ∧
      shallow.compile segments tokens .empty = .error (.unsupportedAlgorithm ⟨"sum"⟩ "xor") ∧
      ¬ ∃ key t config, tokens.Meets 0 [] first key ∧ tokens.get? key = some t ∧
        t.kind = .checksum config ∧ Checksum.Algorithm.ofName? config.algorithm = none := by
  intro box tokens first segments shallow
  have hleaves : Compiler.leaves {} tokens segments =
      [.text (.literal ⟨"s1"⟩) "0A 0", .dangling ⟨"s2"⟩ ⟨"gone"⟩, .recursive box.id] ++
        .checksum ⟨"crc"⟩ { algorithm := "Adler-32" } ::
          [.checksum ⟨"sum"⟩ { algorithm := "xor" }] := by
    decide +kernel
  have hshallow : shallow.leaves tokens segments =
      [.text (.literal ⟨"s1"⟩) "0A 0", .dangling ⟨"s2"⟩ ⟨"gone"⟩, .tooDeep box.id] ++
        [.checksum ⟨"sum"⟩ { algorithm := "xor" }] := by
    decide +kernel
  have hfirst : (shallow.compile first tokens .empty).isOk = true := by decide +kernel
  refine ⟨((lenient_fails_iff rfl segments tokens .empty).1 _).mpr
      ⟨_, _, _, _, hleaves, by decide +kernel, by decide +kernel, rfl⟩,
    ((lenient_fails_iff rfl segments tokens .empty).1 _).mpr
      ⟨_, _, _, _, hshallow, by decide +kernel, by decide +kernel, rfl⟩, fun hmet => ?_⟩
  obtain ⟨e, he⟩ := (lenient_fails_iff (c := shallow) rfl first tokens .empty).2.mpr hmet
  rw [he] at hfirst
  cases hfirst

end Compiler

end SerialFrame
