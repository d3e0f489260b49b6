import Mathlib.Data.Finset.Card
import Mathlib.Tactic
import SerialFrame.Frame.Expansion
import SerialFrame.Proofs.Token.Table

/-!
# How deep containers go

Opening a container leaves one container less to be opened (`closedCount_append`), so the bound on
the depth that the expansion is given is never reached: `under_eq` is the recursion of the expansion
without any bound, and `under_induction` the induction that goes with it.
-/

namespace SerialFrame

namespace TokenTable

variable {tokens : TokenTable} {id : TokenId} {t : Token} {children : Template}
  {expanding : List TokenId}

theorem mem_containers_iff : t ∈ tokens.containers ↔ t ∈ tokens.tokens ∧ t.children?.isSome := by
  simp [containers]

theorem children?_eq_some_iff : t.children? = some children ↔ t.kind = .container children := by
  unfold Token.children?
  cases t.kind <;> simp

theorem id_mem_containerIds (hget : tokens.get? id = some t)
    (hkind : t.kind = .container children) : t.id ∈ tokens.containerIds := by
  have hchildren : t.children?.isSome := by simp [children?_eq_some_iff.mpr hkind]
  exact List.mem_map.mpr
    ⟨t, mem_containers_iff.mpr ⟨mem_tokens_iff.mpr ⟨id, hget⟩, hchildren⟩, rfl⟩

def closedCount (tokens : TokenTable) (expanding : List TokenId) : Nat :=
  (tokens.containerIds.toFinset \ expanding.toFinset).card

theorem closedCount_le (tokens : TokenTable) (expanding : List TokenId) :
    tokens.closedCount expanding ≤ tokens.containers.length := by
  calc tokens.closedCount expanding
    _ ≤ tokens.containerIds.toFinset.card := Finset.card_le_card Finset.sdiff_subset
    _ ≤ tokens.containerIds.length := List.toFinset_card_le _
    _ = tokens.containers.length := List.length_map _

theorem closedCount_append (hmem : id ∈ tokens.containerIds) (hnot : id ∉ expanding) :
    tokens.closedCount (expanding ++ [id]) + 1 = tokens.closedCount expanding := by
  have hclosed : id ∈ tokens.containerIds.toFinset \ expanding.toFinset := by
    simp [hmem, hnot]
  have hopen : tokens.containerIds.toFinset \ (expanding ++ [id]).toFinset =
      (tokens.containerIds.toFinset \ expanding.toFinset).erase id := by
    ext x
    simp only [Finset.mem_sdiff, Finset.mem_erase, List.mem_toFinset, List.mem_append,
      List.mem_singleton]
    tauto
  rw [closedCount, closedCount, hopen, Finset.card_erase_add_one hclosed]

end TokenTable

namespace Leaf

variable {tokens : TokenTable} {limit : Nat} {expanding : List TokenId} {segment : Segment}

/-- The leaves of a segment depend on the token that it refers to and, if that is a container that can
be opened, on those inside of it. -/
theorem ofSegment_congr {tokens' : TokenTable}
    {inside inside' : List TokenId → List Segment → List Leaf}
    (htoken : ∀ key, segment.tokenId? = some key → tokens'.get? key = tokens.get? key)
    (hinside : ∀ key t children, segment.tokenId? = some key → tokens.get? key = some t →
      t.kind = .container children → t.id ∉ expanding →
        inside' (expanding ++ [t.id]) children.segments =
          inside (expanding ++ [t.id]) children.segments) :
    ofSegment tokens' limit inside' expanding segment =
      ofSegment tokens limit inside expanding segment := by
  unfold ofSegment
  cases hsegment : segment.kind with
  | literal content => rfl
  | token key =>
    have hkey := Segment.tokenId?_eq_some_iff.mpr hsegment
    dsimp only
    rw [htoken key hkey]
    cases hget : tokens.get? key with
    | none => rfl
    | some t =>
      dsimp only
      unfold ofToken
      cases hkind : t.kind with
      | checksum | flag | timestamp | counter | unknown => rfl
      | container children =>
        dsimp only
        by_cases hopen : t.id ∈ expanding
        · rw [if_pos hopen, if_pos hopen]
        · rw [if_neg hopen, if_neg hopen, hinside key t children hkey hget hkind hopen]

/-- A depth beyond the number of containers that are not open adds nothing. -/
theorem ofSegments_succ {depth : Nat} (h : tokens.closedCount expanding < depth)
    (segments : List Segment) :
    ofSegments tokens limit (depth + 1) expanding segments =
      ofSegments tokens limit depth expanding segments := by
  induction depth generalizing expanding segments with
  | zero => omega
  | succ depth ih =>
    have hsegment : ofSegment tokens limit (ofSegments tokens limit (depth + 1)) expanding =
        ofSegment tokens limit (ofSegments tokens limit depth) expanding := by
      funext segment
      refine ofSegment_congr (fun _ _ => rfl) fun key t children _ hget hkind hnot => ih ?_ _
      have := TokenTable.closedCount_append (TokenTable.id_mem_containerIds hget hkind) hnot
      omega
    simp only [ofSegments] at hsegment ⊢
    rw [hsegment]

theorem under_eq (segments : List Segment) :
    under tokens limit expanding segments =
      segments.flatMap (ofSegment tokens limit (under tokens limit) expanding) := by
  have hdepth := Nat.lt_succ_of_le (tokens.closedCount_le expanding)
  rw [under, ← ofSegments_succ hdepth]
  rfl

/-- Induction over the expansion: what holds of segments if it holds inside of every container that
they refer to and that is not open holds of all segments. -/
theorem under_induction (tokens : TokenTable) {P : List TokenId → List Segment → Prop}
    (step : ∀ expanding segments,
      (∀ segment ∈ segments, ∀ key t children, segment.tokenId? = some key →
        tokens.get? key = some t → t.kind = .container children → t.id ∉ expanding →
          P (expanding ++ [t.id]) children.segments) →
      P expanding segments)
    (expanding : List TokenId) (segments : List Segment) : P expanding segments := by
  -- Each container that is opened leaves one less to be opened.
  induction hn : tokens.closedCount expanding using Nat.strong_induction_on
    generalizing expanding segments with
  | h n ih =>
    refine step expanding segments fun segment _ key t children _ hget hkind hnot => ?_
    have hless := TokenTable.closedCount_append (TokenTable.id_mem_containerIds hget hkind) hnot
    exact ih _ (by omega) _ _ rfl

theorem under_append (xs ys : List Segment) :
    under tokens limit expanding (xs ++ ys) =
      under tokens limit expanding xs ++ under tokens limit expanding ys := by
  rw [under_eq, List.flatMap_append, ← under_eq, ← under_eq]

end Leaf

end SerialFrame
