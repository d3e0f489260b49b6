import SerialFrame.Frame.Reference
import SerialFrame.Proofs.Frame.Depth

/-!
# The tokens that a template uses

The expansion of segments looks up the tokens that they use and no others: it is the same under
every table that agrees on these (`under_congr`), and a checksum or counter in it is one that they
use (`usedIn_of_mem_under`).
-/

namespace SerialFrame

namespace TokenTable

variable {tokens : TokenTable} {segments : List Segment} {container id : TokenId}
  {children : Template}

theorem Uses.of_children (hcontainer : tokens.Uses segments container)
    (hchildren : tokens.container? container = some children)
    (h : tokens.Uses children.segments id) : tokens.Uses segments id := by
  induction h with
  | direct hrefers => exact .inside hcontainer hchildren hrefers
  | inside _ hinner hrefers ih => exact .inside ih hinner hrefers

/-- Ids that hold all that is referred to, by the segments and inside of the containers among them,
are all that the segments use. -/
theorem Uses.mem_of_closed {ids : List TokenId}
    (hfirst : ∀ id ∈ segments.filterMap Segment.tokenId?, id ∈ ids)
    (hclosed : ∀ container ∈ ids, ∀ children ∈ tokens.container? container,
      ∀ id ∈ children.segments.filterMap Segment.tokenId?, id ∈ ids)
    (h : tokens.Uses segments id) : id ∈ ids := by
  induction h with
  | direct hrefers => exact hfirst _ (List.mem_filterMap.mpr hrefers)
  | inside _ hchildren hrefers ih =>
    exact hclosed _ ih _ hchildren _ (List.mem_filterMap.mpr hrefers)

theorem container?_of_kind {key : TokenId} {t : Token} (hget : tokens.get? key = some t)
    (hkind : t.kind = .container children) : tokens.container? key = some children := by
  rw [container?, hget, Option.bind_some, children?_eq_some_iff.mpr hkind]

end TokenTable

namespace Leaf

variable {tokens tokens' : TokenTable} {limit : Nat} {segments : List Segment} {leaf : Leaf}

theorem under_congr (expanding : List TokenId) (segments : List Segment)
    (h : ∀ id, tokens.Uses segments id → tokens'.get? id = tokens.get? id) :
    under tokens' limit expanding segments = under tokens limit expanding segments := by
  -- The containers of `tokens` carry the induction; `tokens'` may have others, but none is opened.
  induction expanding, segments using under_induction tokens with
  | step expanding segments ih =>
  rw [under_eq, under_eq]
  refine List.flatMap_congr fun segment hsegment => ?_
  have huses : ∀ key, segment.tokenId? = some key → tokens.Uses segments key :=
    fun key hkey => .direct ⟨segment, hsegment, hkey⟩
  refine ofSegment_congr (fun key hkey => h key (huses key hkey))
    fun key t children hkey hget hkind hnot => ?_
  have hchildren := TokenTable.container?_of_kind hget hkind
  exact ih segment hsegment key t children hkey hget hkind hnot
    fun id hid => h id ((huses key hkey).of_children hchildren hid)

def UsedIn (tokens : TokenTable) (segments : List Segment) : Leaf → Prop
  | .checksum id config => ∃ key t, tokens.Uses segments key ∧ tokens.get? key = some t ∧
      t.id = id ∧ t.kind = .checksum config
  | .counter id config => ∃ key t, tokens.Uses segments key ∧ tokens.get? key = some t ∧
      t.id = id ∧ t.kind = .counter config
  | _ => True

theorem UsedIn.mono {segments' : List Segment}
    (h : ∀ id, tokens.Uses segments id → tokens.Uses segments' id)
    (hleaf : leaf.UsedIn tokens segments) : leaf.UsedIn tokens segments' := by
  cases leaf with
  | checksum | counter =>
    obtain ⟨key, t, huses, hget, hid, hkind⟩ := hleaf
    exact ⟨key, t, h key huses, hget, hid, hkind⟩
  | text | timestamp | unknown | dangling | recursive | tooDeep => trivial

theorem usedIn_ofToken {key : TokenId} {t : Token} {expanding : List TokenId}
    {inside : List TokenId → List Segment → List Leaf} (huses : tokens.Uses segments key)
    (hget : tokens.get? key = some t)
    (hinside : ∀ children, t.kind = .container children → t.id ∉ expanding →
      ∀ leaf ∈ inside (expanding ++ [t.id]) children.segments, leaf.UsedIn tokens segments) :
    ∀ leaf ∈ ofToken limit inside expanding t, leaf.UsedIn tokens segments := by
  unfold ofToken
  cases hkind : t.kind with
  | flag | timestamp | unknown => exact List.forall_mem_singleton.mpr trivial
  | checksum | counter => exact List.forall_mem_singleton.mpr ⟨key, t, huses, hget, rfl, hkind⟩
  | container children =>
    dsimp only
    by_cases hopen : t.id ∈ expanding
    · rw [if_pos hopen]
      exact List.forall_mem_singleton.mpr trivial
    rw [if_neg hopen]
    by_cases hdeep : limit ≤ expanding.length
    · rw [if_pos hdeep]
      exact List.forall_mem_singleton.mpr trivial
    · rw [if_neg hdeep]
      exact hinside children hkind hopen

theorem usedIn_of_mem_under (expanding : List TokenId) (segments : List Segment) :
    ∀ leaf ∈ under tokens limit expanding segments, leaf.UsedIn tokens segments := by
  induction expanding, segments using under_induction tokens with
  | step expanding segments ih =>
  rw [under_eq]
  refine List.forall_mem_flatMap.mpr fun segment hsegment => ?_
  unfold ofSegment
  cases hsegmentKind : segment.kind with
  | literal content => exact List.forall_mem_singleton.mpr trivial
  | token key =>
    have hkey := Segment.tokenId?_eq_some_iff.mpr hsegmentKind
    have huses : tokens.Uses segments key := .direct ⟨segment, hsegment, hkey⟩
    dsimp only
    cases hget : tokens.get? key with
    | none => exact List.forall_mem_singleton.mpr trivial
    | some t =>
      refine usedIn_ofToken huses hget fun children hkind hnot leaf hleaf => ?_
      have hinner := ih segment hsegment key t children hkey hget hkind hnot leaf hleaf
      exact hinner.mono fun id => huses.of_children (TokenTable.container?_of_kind hget hkind)

end Leaf

end SerialFrame
