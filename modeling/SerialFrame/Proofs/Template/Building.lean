import SerialFrame.Proofs.Format.Project
import SerialFrame.Template.InPlace

/-!
# Building templates

A template comes about step by step: by pushes, from a list of segments, from a document, by
appending to what is there. `every_way_normalizes` says that whatever the steps are, what comes out
is `normalize` of the segments as they were supplied; and that the loops of `InPlace`, which only
look at the end of a list, come to the same. `Joined` tells in terms of runs what that is.
-/

namespace SerialFrame

/-! ### Adding at the end -/

theorem joinBack_concat (s last : Segment) (init : List Segment) :
    joinBack s (init ++ [last]) = init ++ joinBack s [last] := by
  induction init with
  | nil => rfl
  | cons a init ih =>
    cases init with
    | nil => rfl
    | cons b init =>
      change a :: joinBack s (b :: init ++ [last]) = _
      rw [ih]
      rfl

/-- Joining in front and adding behind do not get in each other's way, not even around a single
literal: texts may be joined in either order. -/
theorem joinFront_joinBack (first last : Segment) (segments : List Segment) :
    joinFront first (joinBack last segments) = joinBack last (joinFront first segments) := by
  match segments with
  | [] => rfl
  | [s] =>
    obtain ⟨id, kind⟩ := s
    obtain ⟨firstId, firstKind⟩ := first
    obtain ⟨lastId, lastKind⟩ := last
    cases firstKind <;> cases kind <;> cases lastKind <;>
      simp [joinFront, joinBack, Segment.join?, String.append_assoc]
  | a :: b :: rest =>
    simp only [joinFront, joinBack]
    cases first.join? a <;> rfl

theorem normalize_cons (s : Segment) (segments : List Segment) :
    normalize (s :: segments) = joinFront s (normalize segments) := rfl

theorem normalize_concat (segments : List Segment) (s : Segment) :
    normalize (segments ++ [s]) = joinBack s (normalize segments) := by
  induction segments with
  | nil => rfl
  | cons first segments ih =>
    rw [List.cons_append, normalize_cons, ih, joinFront_joinBack, normalize_cons]

theorem normalize_normalize (segments : List Segment) :
    normalize (normalize segments) = normalize segments :=
  (separated_normalize segments).normalize_eq

theorem normalize_normalize_append (segments more : List Segment) :
    normalize (normalize segments ++ more) = normalize (segments ++ more) := by
  induction more using List.reverseRecOn with
  | nil => rw [List.append_nil, List.append_nil, normalize_normalize]
  | append_singleton more s ih =>
    rw [← List.append_assoc, ← List.append_assoc, normalize_concat, normalize_concat, ih]

/-! ### The loops at the end of a list -/

namespace InPlace

theorem extendLast?_concat (init : List Segment) (last : Segment) (content : String) :
    extendLast? (init ++ [last]) content =
      (last.literal?).map fun text => init ++ [.literal last.id (text ++ content)] := by
  obtain ⟨id, kind⟩ := last
  rw [extendLast?, List.getLast?_concat, List.dropLast_concat]
  cases kind <;> rfl

theorem push_eq_joinBack (out : List Segment) (s : Segment) : push out s = joinBack s out := by
  obtain ⟨id, kind⟩ := s
  rcases List.eq_nil_or_concat out with rfl | ⟨init, last, rfl⟩
  · cases kind <;> rfl
  · rw [List.concat_eq_append, joinBack_concat]
    obtain ⟨lastId, lastKind⟩ := last
    cases kind <;> cases lastKind <;> simp [push, extendLast?_concat, joinBack, Segment.join?,
      Segment.literal?, Segment.literal]

theorem pushLiteral_eq_joinBack (out : List Segment) (fresh : SegmentId) (content : String) :
    pushLiteral out fresh content = joinBack (.literal fresh content) out :=
  push_eq_joinBack out (.literal fresh content)

theorem pushToken_eq_joinBack (out : List Segment) (fresh : SegmentId) (tokenId : TokenId) :
    pushToken out fresh tokenId = joinBack (.token fresh tokenId) out :=
  push_eq_joinBack out (.token fresh tokenId)

theorem mergeNext_eq_push (out : List Segment) (s : Segment) : mergeNext out s = push out s := by
  obtain ⟨id, kind⟩ := s
  cases kind with
  | token => rfl
  | literal content =>
    rw [mergeNext, push]
    dsimp only
    rw [extendLast?]
    cases out.getLast? with
    | none => rfl
    | some last =>
      obtain ⟨lastId, lastKind⟩ := last
      cases lastKind <;> rfl

theorem foldl_eq_normalize {add : List Segment → Segment → List Segment}
    (h : ∀ out s, add out s = joinBack s out) (segments : List Segment) :
    segments.foldl add [] = normalize segments := by
  -- A loop ends with the last segment, so the last one is taken off, not the first.
  induction segments using List.reverseRecOn with
  | nil => rfl
  | append_singleton segments s ih =>
    rw [List.foldl_append, ih, List.foldl_cons, List.foldl_nil, h, normalize_concat]

theorem merge_eq_normalize (segments : List Segment) : merge segments = normalize segments := by
  refine foldl_eq_normalize (fun out s => ?_) segments
  rw [mergeNext_eq_push, push_eq_joinBack]

theorem collect_eq_normalize (segments : List Segment) : collect segments = normalize segments :=
  foldl_eq_normalize push_eq_joinBack segments

end InPlace

/-! ### Runs of literals -/

/-- The second list is the first with every maximal run of literals made into one literal, which has
the id of the first of them and the texts of all. -/
inductive Joined : List Segment → List Segment → Prop
  | nil : Joined [] []
  | reference {s : Segment} {rest out : List Segment} (hs : s.isLiteral = false)
    (h : Joined rest out) : Joined (s :: rest) (s :: out)
  | run {first : Segment} {more rest out : List Segment}
    (hrun : ∀ s ∈ first :: more, s.isLiteral = true)
    (hmaximal : ∀ next ∈ rest.head?, next.isLiteral = false) (h : Joined rest out) :
    Joined (first :: more ++ rest)
      (.literal first.id (String.join ((first :: more).filterMap Segment.literal?)) :: out)

theorem joinFront_of_apart {s : Segment} {segments : List Segment}
    (h : ∀ next ∈ segments.head?, ¬ (s.isLiteral ∧ next.isLiteral)) :
    joinFront s segments = s :: segments := by
  cases segments with
  | nil => rfl
  | cons next rest => rw [joinFront, Segment.join?_eq_none_iff.mpr (h next rfl)]

theorem Segment.eq_literal {s : Segment} (hs : s.isLiteral = true) :
    ∃ text, s = .literal s.id text := by
  obtain ⟨id, kind⟩ := s
  cases kind with
  | literal text => exact ⟨text, rfl⟩
  | token => cases hs

theorem foldr_joinFront_run {first : Segment} {more out : List Segment}
    (hrun : ∀ s ∈ first :: more, s.isLiteral = true)
    (hmaximal : ∀ next ∈ out.head?, next.isLiteral = false) :
    (first :: more).foldr joinFront out =
      .literal first.id (String.join ((first :: more).filterMap Segment.literal?)) :: out := by
  induction more generalizing first with
  | nil =>
    obtain ⟨text, htext⟩ := Segment.eq_literal (hrun first List.mem_cons_self)
    have hapart : ∀ next ∈ out.head?, ¬ (first.isLiteral ∧ next.isLiteral) := fun next hnext => by
      simp [hmaximal next hnext]
    rw [List.foldr_cons, List.foldr_nil, joinFront_of_apart hapart, htext]
    simp [Segment.literal, Segment.literal?]
  | cons second more ih =>
    obtain ⟨text, htext⟩ := Segment.eq_literal (hrun first List.mem_cons_self)
    have hrest := @ih second fun s hs => hrun s (List.mem_cons_of_mem _ hs)
    rw [List.foldr_cons, hrest, htext]
    simp [joinFront, Segment.literal, Segment.literal?, Segment.join?]

namespace Joined

variable {segments out : List Segment}

theorem head_of_not_isLiteral (h : Joined segments out)
    (hhead : ∀ next ∈ segments.head?, next.isLiteral = false) :
    ∀ next ∈ out.head?, next.isLiteral = false := by
  cases h with
  | nil => exact hhead
  | reference hs _ =>
    rintro next ⟨⟩
    exact hs
  | run hrun _ _ => exact absurd (hhead _ rfl) (by simp [hrun _ List.mem_cons_self])

theorem eq_normalize (h : Joined segments out) : out = normalize segments := by
  induction h with
  | nil => rfl
  | reference hs _ ih =>
    rw [normalize_cons, ← ih, joinFront_of_apart fun next _ => by simp [hs]]
  | run hrun hmaximal h ih =>
    rw [normalize, List.foldr_append, ← normalize, ← ih,
      foldr_joinFront_run hrun (h.head_of_not_isLiteral hmaximal)]

/-- A segment in front of a list either opens a run, or is the new first of the run that the list
starts with, or is none of a run. -/
theorem exists_cons (s : Segment) (h : Joined segments out) :
    ∃ out, Joined (s :: segments) out := by
  cases hs : s.isLiteral with
  | false => exact ⟨_, .reference hs h⟩
  | true =>
    have hself : ∀ x ∈ [s], x.isLiteral = true := by simp [hs]
    cases h with
    | nil => exact ⟨_, @run s [] [] [] hself (by simp) .nil⟩
    | reference hnext h => exact ⟨_, .run hself (by simp [hnext]) (.reference hnext h)⟩
    | @run first more rest _ hrun hmaximal h =>
      have hlonger : ∀ x ∈ s :: first :: more, x.isLiteral = true :=
        List.forall_mem_cons.mpr ⟨hs, hrun⟩
      exact ⟨_, @run s (first :: more) rest _ hlonger hmaximal h⟩

theorem exists_out (segments : List Segment) : ∃ out, Joined segments out := by
  induction segments with
  | nil => exact ⟨[], .nil⟩
  | cons s segments ih =>
    obtain ⟨out, hout⟩ := ih
    exact hout.exists_cons s

theorem iff_eq_normalize : Joined segments out ↔ out = normalize segments := by
  constructor
  · exact eq_normalize
  · rintro rfl
    obtain ⟨out, hout⟩ := exists_out segments
    rwa [← hout.eq_normalize]

theorem filter_references (h : Joined segments out) :
    out.filter (!·.isLiteral) = segments.filter (!·.isLiteral) := by
  induction h with
  | nil => rfl
  | reference hs _ ih => rw [List.filter_cons, List.filter_cons, ih]
  | @run first more _ _ hrun _ _ ih =>
    have hnone : (first :: more).filter (!·.isLiteral) = [] :=
      List.filter_eq_nil_iff.mpr fun s hs => by simp [hrun s hs]
    rw [List.filter_append, hnone, List.nil_append, ← ih]
    rfl

end Joined

/-! ### Steps -/

namespace Template

/-- One way to make a template or to add to it. A segment that is made anew gets the id `fresh`. -/
inductive Step
  | pushLiteral (fresh : SegmentId) (content : String)
  | pushToken (fresh : SegmentId) (tokenId : TokenId)
  | push (s : Segment)
  | ofSegments (segments : List Segment)
  | collect (segments : List Segment)
  | read (level : Nat) (j : Json)
  | append (segments : List Segment)

namespace Step

def perform? (t : Template) : Step → Option Template
  | .pushLiteral fresh content => some (t.pushLiteral fresh content)
  | .pushToken fresh tokenId => some (t.pushToken fresh tokenId)
  | .push s => some (t.push s)
  | .ofSegments segments => some (Template.ofSegments segments)
  | .collect segments => some (Template.collect segments)
  | .read level j => ofJson? level j
  | .append segments => some (t.append segments)

/-- The list after a step that is done in place. -/
def write? (out : List Segment) : Step → Option (List Segment)
  | .pushLiteral fresh content => some (InPlace.pushLiteral out fresh content)
  | .pushToken fresh tokenId => some (InPlace.pushToken out fresh tokenId)
  | .push s => some (InPlace.push out s)
  | .ofSegments segments => some (InPlace.merge segments)
  | .collect segments => some (InPlace.collect segments)
  | .read level j => (listed? level j).map InPlace.merge
  | .append segments => some (InPlace.merge (out ++ segments))

/-- The segments supplied after a step, as they came; a template that is made anew has none from
before. -/
def supply? (supplied : List Segment) : Step → Option (List Segment)
  | .pushLiteral fresh content => some (supplied ++ [.literal fresh content])
  | .pushToken fresh tokenId => some (supplied ++ [.token fresh tokenId])
  | .push s => some (supplied ++ [s])
  | .ofSegments segments | .collect segments => some segments
  | .read level j => listed? level j
  | .append segments => some (supplied ++ segments)

theorem segments_collect (segments : List Segment) :
    (Template.collect segments).segments = InPlace.collect segments :=
  (List.foldl_hom Template.segments fun t s => InPlace.push_eq_joinBack t.segments s).symm

theorem segments_perform? (t : Template) (step : Step) :
    (perform? t step).map segments = write? t.segments step := by
  cases step with
  | pushLiteral fresh content =>
    exact congrArg some (InPlace.pushLiteral_eq_joinBack t.segments fresh content).symm
  | pushToken fresh tokenId =>
    exact congrArg some (InPlace.pushToken_eq_joinBack t.segments fresh tokenId).symm
  | push s => exact congrArg some (InPlace.push_eq_joinBack t.segments s).symm
  | ofSegments segments => exact congrArg some (InPlace.merge_eq_normalize segments).symm
  | collect segments => exact congrArg some (segments_collect segments)
  | read level j =>
    rw [perform?, write?, ofJson?_eq_map, Option.map_map]
    exact Option.map_congr fun segments _ => (InPlace.merge_eq_normalize segments).symm
  | append segments => exact congrArg some (InPlace.merge_eq_normalize _).symm

theorem normalize_supply? (supplied : List Segment) (step : Step) :
    (supply? supplied step).map normalize = write? (normalize supplied) step := by
  cases step with
  | pushLiteral fresh content =>
    rw [supply?, write?, InPlace.pushLiteral_eq_joinBack, Option.map_some, normalize_concat]
  | pushToken fresh tokenId =>
    rw [supply?, write?, InPlace.pushToken_eq_joinBack, Option.map_some, normalize_concat]
  | push s => rw [supply?, write?, InPlace.push_eq_joinBack, Option.map_some, normalize_concat]
  | ofSegments segments => rw [supply?, write?, InPlace.merge_eq_normalize, Option.map_some]
  | collect segments => rw [supply?, write?, InPlace.collect_eq_normalize, Option.map_some]
  | read level j =>
    rw [supply?, write?]
    exact Option.map_congr fun segments _ => (InPlace.merge_eq_normalize segments).symm
  | append segments =>
    rw [supply?, write?, InPlace.merge_eq_normalize, Option.map_some, normalize_normalize_append]

theorem map_foldlM {σ α β : Type} {view : α → β} {f : α → σ → Option α} {g : β → σ → Option β}
    (h : ∀ a step, (f a step).map view = g (view a) step) (steps : List σ) (a : α) :
    (steps.foldlM f a).map view = steps.foldlM g (view a) := by
  induction steps generalizing a with
  | nil => rfl
  | cons step steps ih =>
    rw [List.foldlM_cons, List.foldlM_cons, ← h]
    cases f a step with
    | none => rfl
    | some a => exact ih a

end Step

/-- Whatever steps a template is built in, it has the segments that were supplied, normalized, with
the ids they were supplied with; it makes no difference whether it is built in place. Normalizing
makes each maximal run of literals one literal with the id of the first and the joined texts, and
leaves the references as they are. It can be done early, for a part, and again. -/
theorem every_way_normalizes :
    (∀ steps : List Step,
      (steps.foldlM Step.perform? empty).map segments =
        (steps.foldlM Step.supply? []).map normalize ∧
      steps.foldlM Step.write? [] = (steps.foldlM Step.supply? []).map normalize) ∧
    ∀ segments : List Segment,
      Separated (normalize segments) ∧
      (∀ out, Joined segments out ↔ out = normalize segments) ∧
      (normalize segments).filter (!·.isLiteral) = segments.filter (!·.isLiteral) ∧
      normalize (normalize segments) = normalize segments ∧
      ∀ more, normalize (normalize segments ++ more) = normalize (segments ++ more) := by
  have hsupplied (steps : List Step) :
      (steps.foldlM Step.supply? []).map normalize = steps.foldlM Step.write? [] :=
    Step.map_foldlM Step.normalize_supply? steps []
  refine ⟨fun steps => ⟨?_, (hsupplied steps).symm⟩, fun segments => ⟨?_, ?_, ?_, ?_, ?_⟩⟩
  · rw [hsupplied]
    exact Step.map_foldlM Step.segments_perform? steps empty
  · exact separated_normalize segments
  · exact fun out => Joined.iff_eq_normalize
  · exact (Joined.iff_eq_normalize.mpr rfl).filter_references
  · exact normalize_normalize segments
  · exact normalize_normalize_append segments

example :
    ([.pushLiteral ⟨"a"⟩ "", .push (.literal ⟨"b"⟩ "0"),
        .append [.literal ⟨"c"⟩ "1 ", .token ⟨"d"⟩ ⟨"crc"⟩, .literal ⟨"e"⟩ "2"],
        .pushLiteral ⟨"f"⟩ "3"].foldlM Step.perform? empty).map segments =
      some [.literal ⟨"a"⟩ "01 ", .token ⟨"d"⟩ ⟨"crc"⟩, .literal ⟨"e"⟩ "23"] := by
  decide +kernel

end Template

end SerialFrame
