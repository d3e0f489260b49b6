import Mathlib.Tactic
import SerialFrame.Frame.Reference
import SerialFrame.Proofs.Frame.Depth
import SerialFrame.Proofs.Frame.Run
import SerialFrame.Sample.Projects

/-!
# Containers that are not opened

The expansion goes down every path of the reference graph that is not too long, so a leaf stands
where such a path ends (`mem_under_iff`). `container_warnings_iff` reads off which containers are
reported, and that under a limit that no path reaches this means: the graph has a cycle.
-/

namespace SerialFrame

namespace TokenTable

variable {tokens : TokenTable} {segments last : List Segment} {path : List TokenId}
  {id a b : TokenId} {children : Template} {t : Token}

theorem Keyed.container?_eq_some_iff (hkeyed : tokens.Keyed) :
    tokens.container? id = some children ↔
      ∃ t, tokens.get? id = some t ∧ t.kind = .container children ∧ t.id = id := by
  simp only [container?, Option.bind_eq_some_iff, children?_eq_some_iff]
  constructor
  · rintro ⟨t, hget, hkind⟩
    exact ⟨t, hget, hkind, (hkeyed.get?_iff.mp hget).2⟩
  · rintro ⟨t, hget, hkind, -⟩
    exact ⟨t, hget, hkind⟩

theorem Keyed.mem_containerIds (hkeyed : tokens.Keyed) (h : (tokens.container? id).isSome) :
    id ∈ tokens.containerIds := by
  obtain ⟨children, h⟩ := Option.isSome_iff_exists.mp h
  obtain ⟨t, hget, hkind, rfl⟩ := hkeyed.container?_eq_some_iff.mp h
  exact id_mem_containerIds hget hkind

/-! ### Ways down -/

namespace Leads

theorem concat (h : tokens.Leads segments path last) (hrefers : Refers last id)
    (hcontainer : tokens.container? id = some children) :
    tokens.Leads segments (path ++ [id]) children.segments := by
  induction h with
  | here segments => exact .down hrefers hcontainer (.here _)
  | down hfirst hinner _ ih => exact .down hfirst hinner (ih hrefers)

theorem isSome_of_mem (h : tokens.Leads segments path last) (hid : id ∈ path) :
    (tokens.container? id).isSome := by
  induction h with
  | here segments => exact absurd hid List.not_mem_nil
  | down _ hinner _ ih =>
    rcases List.mem_cons.mp hid with rfl | hid
    · simp [hinner]
    · exact ih hid

theorem transGen (h : tokens.Leads segments path last) (hstart : tokens.container? a = some children)
    (hsegments : children.segments = segments) (hrefers : Refers last b)
    (hcontainer : (tokens.container? b).isSome) : Relation.TransGen tokens.Encloses a b := by
  induction h generalizing a children with
  | here segments => exact .single ⟨children, hstart, hsegments ▸ hrefers, hcontainer⟩
  | down hfirst hinner _ ih =>
    have hstep : tokens.Encloses a _ :=
      ⟨children, hstart, hsegments ▸ hfirst, by simp only [hinner, Option.isSome_some]⟩
    exact .head hstep (ih hinner rfl hrefers)

theorem reachable_of_mem (h : tokens.Leads segments path last) (hid : id ∈ path)
    (hrefers : Refers last b) (hcontainer : (tokens.container? b).isSome) :
    tokens.Reachable segments id ∧ Relation.TransGen tokens.Encloses id b := by
  induction h with
  | here segments => exact absurd hid List.not_mem_nil
  | @down segments last first children path hfirst hinner hleads ih =>
    have hsome : (tokens.container? first).isSome := by simp [hinner]
    rcases List.mem_cons.mp hid with rfl | hid
    · exact ⟨⟨id, hfirst, hsome, .refl⟩, hleads.transGen hinner rfl hrefers hcontainer⟩
    · obtain ⟨⟨next, hnext, hnextSome, hrest⟩, hcycle⟩ := ih hid hrefers
      exact ⟨⟨first, hfirst, hsome, .head ⟨children, hinner, hnext, hnextSome⟩ hrest⟩, hcycle⟩

end Leads

theorem Path.length_le (hkeyed : tokens.Keyed) (h : tokens.Path segments path last) :
    path.length ≤ tokens.containers.length := by
  have hsub : path ⊆ tokens.containerIds :=
    fun id hid => hkeyed.mem_containerIds (h.leads.isSome_of_mem hid)
  have hlength := (List.subperm_of_subset h.nodup hsub).length_le
  rwa [containerIds, List.length_map] at hlength

theorem Path.concat (h : tokens.Path segments path last) (hrefers : Refers last id)
    (hcontainer : tokens.container? id = some children) (hnot : id ∉ path) :
    tokens.Path segments (path ++ [id]) children.segments :=
  ⟨h.leads.concat hrefers hcontainer,
    List.nodup_append_comm.mp (List.nodup_cons.mpr ⟨hnot, h.nodup⟩)⟩

theorem exists_path_back_iff (hkeyed : tokens.Keyed) :
    (∃ id path last, tokens.Path segments path last ∧ id ∈ path ∧ Refers last id) ↔
      ∃ id, tokens.Reachable segments id ∧ Relation.TransGen tokens.Encloses id id := by
  constructor
  · rintro ⟨id, path, last, hpath, hid, hrefers⟩
    exact ⟨id, hpath.leads.reachable_of_mem hid hrefers (hpath.leads.isSome_of_mem hid)⟩
  · rintro ⟨id, ⟨first, hfirst, hsome, hreach⟩, hcycle⟩
    by_contra hnone
    -- Without such a path, one could go on towards the cycle and around it for ever.
    have hlong : ∀ n, ∃ path last x, tokens.Path segments path last ∧ path.length = n ∧
        Refers last x ∧ (tokens.container? x).isSome ∧ Relation.ReflTransGen tokens.Encloses x id := by
      intro n
      induction n with
      | zero => exact ⟨[], segments, first, ⟨.here _, List.nodup_nil⟩, rfl, hfirst, hsome, hreach⟩
      | succ n ih =>
        obtain ⟨path, last, x, hpath, hlength, hrefers, hx, hto⟩ := ih
        have hnot : x ∉ path := fun hmem => hnone ⟨x, path, last, hpath, hmem, hrefers⟩
        have hnext : ∃ y, tokens.Encloses x y ∧ Relation.ReflTransGen tokens.Encloses y id := by
          rcases Relation.ReflTransGen.cases_head hto with rfl | hstep
          · exact Relation.TransGen.head'_iff.mp hcycle
          · exact hstep
        obtain ⟨y, ⟨children, hcontainer, hy, hysome⟩, hyto⟩ := hnext
        exact ⟨path ++ [x], children.segments, y, hpath.concat hrefers hcontainer hnot,
          by simp [hlength], hy, hysome, hyto⟩
    obtain ⟨path, last, -, hpath, hlength, -⟩ := hlong (tokens.containers.length + 1)
    have := hpath.length_le hkeyed
    omega

end TokenTable

namespace Leaf

variable {tokens : TokenTable} {limit : Nat} {expanding : List TokenId} {segment : Segment}
  {segments : List Segment} {leaf : Leaf} {id : TokenId}

/-- The leaves of a segment itself, without those inside of a container that it opens. -/
def atSegment (tokens : TokenTable) (limit : Nat) (expanding : List TokenId) (segment : Segment) :
    List Leaf :=
  ofSegment tokens limit (fun _ _ => []) expanding segment

theorem mem_ofSegment_iff (hkeyed : tokens.Keyed)
    {inside : List TokenId → List Segment → List Leaf} :
    leaf ∈ ofSegment tokens limit inside expanding segment ↔
      leaf ∈ atSegment tokens limit expanding segment ∨
      ∃ id children, segment.tokenId? = some id ∧ tokens.container? id = some children ∧
        id ∉ expanding ∧ expanding.length < limit ∧
        leaf ∈ inside (expanding ++ [id]) children.segments := by
  unfold atSegment ofSegment Segment.tokenId?
  cases segment.kind with
  | literal content => simp
  | token id =>
    dsimp only
    cases hget : tokens.get? id with
    | none => simp [TokenTable.container?, hget]
    | some t =>
      dsimp only
      unfold ofToken
      cases hkind : t.kind with
      | checksum | flag | timestamp | counter | unknown =>
        simp [TokenTable.container?, hget, Token.children?, hkind]
      | container children =>
        have hid : t.id = id := (hkeyed.get?_iff.mp hget).2
        have hcontainer : tokens.container? id = some children :=
          hkeyed.container?_eq_some_iff.mpr ⟨t, hget, hkind, hid⟩
        subst hid
        dsimp only
        by_cases hopen : t.id ∈ expanding
        · simp [hopen]
        by_cases hdeep : limit ≤ expanding.length
        · simp [hopen, hdeep, Nat.not_lt.mpr hdeep]
        simp [hopen, hdeep, Nat.not_le.mp hdeep, hcontainer]

/-- A leaf stands where a way down ends that goes into containers that are not open. -/
theorem mem_under_iff (hkeyed : tokens.Keyed) (hlimit : expanding.length ≤ limit) :
    leaf ∈ under tokens limit expanding segments ↔
      ∃ path last, tokens.Path segments path last ∧ path.Disjoint expanding ∧
        expanding.length + path.length ≤ limit ∧
        ∃ segment ∈ last, leaf ∈ atSegment tokens limit (expanding ++ path) segment := by
  constructor
  · intro h
    induction expanding, segments using under_induction tokens with
    | step expanding segments ih =>
    rw [under_eq] at h
    obtain ⟨segment, hsegment, h⟩ := List.mem_flatMap.mp h
    rcases (mem_ofSegment_iff hkeyed).mp h with h | ⟨id, children, hid, hcontainer, hnot, hdeep, h⟩
    · exact ⟨[], segments, ⟨.here _, List.nodup_nil⟩, List.disjoint_nil_left _, hlimit, segment,
        hsegment, by rwa [List.append_nil]⟩
    · obtain ⟨t, hget, hkind, rfl⟩ := hkeyed.container?_eq_some_iff.mp hcontainer
      have hlength : (expanding ++ [t.id]).length = expanding.length + 1 := by simp
      obtain ⟨path, last, hpath, hdisjoint, hpathLimit, s, hs, hleaf⟩ :=
        ih segment hsegment t.id t children hid hget hkind hnot (by omega) h
      rw [List.append_assoc, List.singleton_append] at hleaf
      refine ⟨t.id :: path, last, ⟨.down ⟨segment, hsegment, hid⟩ hcontainer hpath.leads, ?_⟩, ?_,
        ?_, s, hs, hleaf⟩
      · refine List.nodup_cons.mpr ⟨fun hmem => ?_, hpath.nodup⟩
        exact hdisjoint hmem (List.mem_append_right _ List.mem_cons_self)
      · refine List.disjoint_cons_left.mpr ⟨hnot, fun x hx hopen => ?_⟩
        exact hdisjoint hx (List.mem_append_left _ hopen)
      · rw [List.length_cons]
        omega
  · rintro ⟨path, last, ⟨hleads, hnodup⟩, hdisjoint, hpathLimit, s, hs, hleaf⟩
    induction hleads generalizing expanding with
    | here segments =>
      rw [List.append_nil] at hleaf
      rw [under_eq]
      exact List.mem_flatMap.mpr ⟨s, hs, (mem_ofSegment_iff hkeyed).mpr (.inl hleaf)⟩
    | @down segments last id children path hfirst hcontainer _ ih =>
      obtain ⟨segment, hsegment, hid⟩ := hfirst
      obtain ⟨hidPath, hnodup⟩ := List.nodup_cons.mp hnodup
      obtain ⟨hnot, hdisjoint⟩ := List.disjoint_cons_left.mp hdisjoint
      rw [List.length_cons] at hpathLimit
      have hlength : (expanding ++ [id]).length = expanding.length + 1 := by simp
      have hinner : leaf ∈ under tokens limit (expanding ++ [id]) children.segments := by
        refine ih (by omega) hnodup (fun x hx hopen => ?_) (by omega) hs ?_
        · rcases List.mem_append.mp hopen with hopen | hopen
          · exact hdisjoint hx hopen
          · exact hidPath (List.mem_singleton.mp hopen ▸ hx)
        · rwa [List.append_assoc, List.singleton_append]
      rw [under_eq]
      exact List.mem_flatMap.mpr ⟨segment, hsegment,
        (mem_ofSegment_iff hkeyed).mpr (.inr ⟨id, children, hid, hcontainer, hnot, by omega, hinner⟩)⟩

theorem not_opened_mem_atSegment_iff (hkeyed : tokens.Keyed) :
    (.recursive id ∈ atSegment tokens limit expanding segment ↔
      segment.tokenId? = some id ∧ (tokens.container? id).isSome ∧ id ∈ expanding) ∧
    (.tooDeep id ∈ atSegment tokens limit expanding segment ↔
      segment.tokenId? = some id ∧ (tokens.container? id).isSome ∧ id ∉ expanding ∧
        limit ≤ expanding.length) := by
  unfold atSegment ofSegment Segment.tokenId?
  cases segment.kind with
  | literal content => simp
  | token key =>
    dsimp only
    cases hget : tokens.get? key with
    | none =>
      have hnone : tokens.container? key = none := by simp [TokenTable.container?, hget]
      constructor <;> simp only [List.mem_singleton, reduceCtorEq, false_iff] <;>
        rintro ⟨hid, hsome, -⟩ <;> simp [← Option.some.inj hid, hnone] at hsome
    | some t =>
      have hid : t.id = key := (hkeyed.get?_iff.mp hget).2
      subst hid
      dsimp only
      unfold ofToken
      cases hkind : t.kind with
      | checksum | flag | timestamp | counter | unknown =>
        have hnone : tokens.container? t.id = none := by
          simp [TokenTable.container?, hget, Token.children?, hkind]
        constructor <;> simp only [List.mem_singleton, reduceCtorEq, false_iff] <;>
          rintro ⟨hid, hsome, -⟩ <;> simp [← Option.some.inj hid, hnone] at hsome
      | container children =>
        have hcontainer : tokens.container? t.id = some children :=
          hkeyed.container?_eq_some_iff.mpr ⟨t, hget, hkind, rfl⟩
        dsimp only
        by_cases hopen : t.id ∈ expanding
        · simp only [hopen, if_true, List.mem_singleton, recursive.injEq, Option.some.injEq,
            reduceCtorEq, false_iff]
          refine ⟨⟨fun h => ?_, fun h => h.1.symm⟩, fun h => ?_⟩
          · subst h
            simp [hcontainer, hopen]
          · exact h.2.2.1 (h.1 ▸ hopen)
        by_cases hdeep : limit ≤ expanding.length
        · simp only [hopen, hdeep, if_true, if_false, List.mem_singleton, tooDeep.injEq,
            Option.some.injEq, reduceCtorEq, false_iff, and_true]
          refine ⟨fun h => hopen (h.1 ▸ h.2.2), fun h => ?_, fun h => h.1.symm⟩
          subst h
          simp [hcontainer, hopen]
        · simp only [hopen, hdeep, if_false, List.not_mem_nil, false_iff, Option.some.injEq,
            and_false, and_true]
          exact fun h => hopen (h.1 ▸ h.2.2)

end Leaf

namespace Compiler

variable {c : Compiler} {tokens : TokenTable} {segments : List Segment} {store : CounterStore}
  {frame : Frame} {id : TokenId}

theorem not_opened_mem_warnings_iff {a : Assembly} {leaf : Leaf} :
    (.recursiveContainer id ∈ c.warnings a leaf ↔ leaf = .recursive id) ∧
    ∀ n, .containerTooDeep id n ∈ c.warnings a leaf ↔
      leaf = .tooDeep id ∧ n = c.options.maxContainerDepth := by
  cases leaf with
  | counter token config =>
    simp only [warnings, reduceCtorEq, false_and, iff_false]
    split
    · simp
    · split <;> simp
  | checksum token config =>
    simp only [warnings, reduceCtorEq, false_and, iff_false]
    split
    · split <;> simp
    · simp
  | text | timestamp | unknown | dangling | recursive | tooDeep =>
    simp [warnings, Hex.Reading.warnings, eq_comm]

theorem mem_warnings_iff {w : Warning} {Reports : Leaf → Prop}
    (hreports : ∀ a leaf, w ∈ c.warnings a leaf ↔ Reports leaf)
    (hframe : c.compile segments tokens store = .ok frame) :
    w ∈ frame.warnings ↔ ∃ leaf ∈ c.leaves tokens segments, Reports leaf := by
  obtain ⟨b, hrun, rfl⟩ := compile_eq_ok_iff.mp hframe
  refine run_invariant (P := fun done a => w ∈ a.warnings ↔ ∃ leaf ∈ done, Reports leaf) hrun
    (by simp) fun done leaf a edit _ h _ => ?_
  simp only [after, List.mem_append, h, hreports, List.mem_singleton, or_and_right, exists_or,
    exists_eq_left]

/-- Which containers are reported, in a frame under any limit: a container as recursive if some path
within the limit goes through it and refers back to it, and as too deep if some path of exactly that
length refers to it without going through it. So if the limit is no less than the number of
containers, none is too deep, and some is recursive if and only if a cycle can be reached. -/
theorem container_warnings_iff (hkeyed : tokens.Keyed)
    (hframe : c.compile segments tokens store = .ok frame) :
    let limit := c.options.maxContainerDepth
    (∀ id, .recursiveContainer id ∈ frame.warnings ↔
      ∃ path last, tokens.Path segments path last ∧ 1 ≤ path.length ∧ path.length ≤ limit ∧
        id ∈ path ∧ Refers last id) ∧
    (∀ id, (tokens.container? id).isSome → ∀ n, .containerTooDeep id n ∈ frame.warnings ↔
      n = limit ∧ ∃ path last, tokens.Path segments path last ∧ path.length = limit ∧
        id ∉ path ∧ Refers last id) ∧
    (tokens.containers.length ≤ limit →
      ((∃ id, .recursiveContainer id ∈ frame.warnings) ↔
        ∃ id, tokens.Reachable segments id ∧ Relation.TransGen tokens.Encloses id id) ∧
      ∀ id n, .containerTooDeep id n ∉ frame.warnings) := by
  intro limit
  have hunder : ∀ leaf, leaf ∈ c.leaves tokens segments ↔ ∃ path last,
      tokens.Path segments path last ∧ path.length ≤ limit ∧
        ∃ segment ∈ last, leaf ∈ Leaf.atSegment tokens limit path segment := by
    intro leaf
    have hnone : ([] : List TokenId).length ≤ limit := Nat.zero_le limit
    change leaf ∈ Leaf.under tokens limit [] segments ↔ _
    simpa using Leaf.mem_under_iff hkeyed hnone
  have hrecursive : ∀ id, .recursiveContainer id ∈ frame.warnings ↔
      ∃ path last, tokens.Path segments path last ∧ path.length ≤ limit ∧ id ∈ path ∧
        Refers last id := by
    intro id
    rw [mem_warnings_iff (fun _ _ => not_opened_mem_warnings_iff.1) hframe]
    simp only [exists_eq_right, hunder, (Leaf.not_opened_mem_atSegment_iff hkeyed).1]
    constructor
    · rintro ⟨path, last, hpath, hlength, segment, hsegment, hid, -, hmem⟩
      exact ⟨path, last, hpath, hlength, hmem, segment, hsegment, hid⟩
    · rintro ⟨path, last, hpath, hlength, hmem, segment, hsegment, hid⟩
      exact ⟨path, last, hpath, hlength, segment, hsegment, hid, hpath.leads.isSome_of_mem hmem, hmem⟩
  have htooDeep : ∀ id n, .containerTooDeep id n ∈ frame.warnings ↔
      n = limit ∧ ∃ path last, tokens.Path segments path last ∧ path.length = limit ∧
        id ∉ path ∧ Refers last id ∧ (tokens.container? id).isSome := by
    intro id n
    rw [mem_warnings_iff (fun _ _ => not_opened_mem_warnings_iff.2 n) hframe]
    constructor
    · rintro ⟨_, hleaf, rfl, hn⟩
      obtain ⟨path, last, hpath, hlength, segment, hsegment, hleaf⟩ := (hunder _).mp hleaf
      obtain ⟨hid, hsome, hnot, hlimit⟩ := (Leaf.not_opened_mem_atSegment_iff hkeyed).2.mp hleaf
      exact ⟨hn, path, last, hpath, Nat.le_antisymm hlength hlimit, hnot, ⟨segment, hsegment, hid⟩,
        hsome⟩
    · rintro ⟨hn, path, last, hpath, hlength, hnot, ⟨segment, hsegment, hid⟩, hsome⟩
      refine ⟨.tooDeep id, (hunder _).mpr ⟨path, last, hpath, hlength.le, segment, hsegment, ?_⟩, rfl,
        hn⟩
      exact (Leaf.not_opened_mem_atSegment_iff hkeyed).2.mpr ⟨hid, hsome, hnot, hlength.ge⟩
  refine ⟨fun id => (hrecursive id).trans ?_, fun id hsome n => (htooDeep id n).trans ?_,
    fun hwide => ⟨?_, fun id n hmem => ?_⟩⟩
  · constructor
    · rintro ⟨path, last, hpath, hlength, hmem, hrefers⟩
      exact ⟨path, last, hpath, List.length_pos_of_mem hmem, hlength, hmem, hrefers⟩
    · rintro ⟨path, last, hpath, -, hlength, hmem, hrefers⟩
      exact ⟨path, last, hpath, hlength, hmem, hrefers⟩
  · simp [hsome]
  · simp only [hrecursive, ← TokenTable.exists_path_back_iff hkeyed]
    constructor
    · rintro ⟨id, path, last, hpath, -, hmem, hrefers⟩
      exact ⟨id, path, last, hpath, hmem, hrefers⟩
    · rintro ⟨id, path, last, hpath, hmem, hrefers⟩
      exact ⟨id, path, last, hpath, (hpath.length_le hkeyed).trans hwide, hmem, hrefers⟩
  · obtain ⟨-, path, last, hpath, hlength, hnot, hrefers, hsome⟩ := (htooDeep id n).mp hmem
    obtain ⟨children, hcontainer⟩ := Option.isSome_iff_exists.mp hsome
    have hlonger := (hpath.concat hrefers hcontainer hnot).length_le hkeyed
    rw [List.length_append, List.length_singleton] at hlonger
    omega

open Sample in
/-- Two containers that refer to each other: the default limit finds the cycle, and a limit of one
container keeps the second from being opened. -/
theorem container_warnings_iff_cycle :
    let a := token "a" (.container (.ofSegments [reference "a1" "b"]))
    let b := token "b" (.container (.ofSegments [reference "b1" "a"]))
    let tokens := TokenTable.ofTokens [a, b]
    let segments := [reference "s1" "a"]
    let shallow := Compiler.mk { maxContainerDepth := 1 } ⟨0⟩
    (∃ frame, Compiler.compile {} segments tokens .empty = .ok frame ∧
      .recursiveContainer a.id ∈ frame.warnings ∧
      ∃ id, tokens.Reachable segments id ∧ Relation.TransGen tokens.Encloses id id) ∧
    ∃ frame, shallow.compile segments tokens .empty = .ok frame ∧
      .containerTooDeep b.id 1 ∈ frame.warnings ∧
      ∃ path last, tokens.Path segments path last ∧ path.length = 1 ∧ b.id ∉ path ∧
        Refers last b.id := by
  intro a b tokens segments shallow
  have hkeyed : tokens.Keyed := by decide +kernel
  let frame (w : Warning) : Frame := ⟨[], [], [], [w], .empty⟩
  have hdeep : Compiler.compile {} segments tokens .empty = .ok (frame (.recursiveContainer a.id)) := by
    decide +kernel
  have hshallow : shallow.compile segments tokens .empty =
      .ok (frame (.containerTooDeep b.id 1)) := by
    decide +kernel
  have hcycle := ((container_warnings_iff hkeyed hdeep).2.2 (by decide +kernel)).1.mp
    ⟨a.id, List.mem_singleton_self _⟩
  have hpath := ((container_warnings_iff hkeyed hshallow).2.1 b.id (by decide +kernel) 1).mp
    (List.mem_singleton_self _)
  exact ⟨⟨_, hdeep, List.mem_singleton_self _, hcycle⟩, _, hshallow, List.mem_singleton_self _, hpath.2⟩

end Compiler

end SerialFrame
