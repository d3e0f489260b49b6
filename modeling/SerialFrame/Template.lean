import SerialFrame.Segment

/-!
# Templates

A template is a list of segments in which no literal follows a literal: a run of literals is one
literal with the texts joined, under the id of the first. `normalize` brings a list of segments to
that form, and the pushes keep a template in it.
-/

namespace SerialFrame

/-- No literal stands right behind a literal. -/
def Separated : List Segment → Prop
  | a :: b :: rest => ¬ (a.isLiteral ∧ b.isLiteral) ∧ Separated (b :: rest)
  | _ => True

def Segment.join? (a b : Segment) : Option Segment :=
  match a.kind, b.kind with
  | .literal first, .literal second => some ⟨a.id, .literal (first ++ second)⟩
  | _, _ => none

theorem Segment.join?_eq_none_iff {a b : Segment} :
    a.join? b = none ↔ ¬ (a.isLiteral ∧ b.isLiteral) := by
  unfold join? isLiteral literal?
  cases a.kind <;> cases b.kind <;> simp

theorem Segment.isLiteral_of_join? {a b c : Segment} (h : a.join? b = some c) :
    a.isLiteral ∧ b.isLiteral ∧ c.isLiteral := by
  unfold join? at h
  split at h
  · next ha hb =>
    obtain rfl := Option.some.inj h
    simp [isLiteral, literal?, ha, hb]
  · exact absurd h (by simp)

theorem Segment.join?_eq_some_iff {a b c : Segment} :
    a.join? b = some c ↔ ∃ first second, a.kind = .literal first ∧ b.kind = .literal second ∧
      c = .literal a.id (first ++ second) := by
  unfold join? Segment.literal
  cases a.kind <;> cases b.kind <;> simp [eq_comm]

/-- Puts a segment in front of others, joining two literals that meet. -/
def joinFront (s : Segment) : List Segment → List Segment
  | [] => [s]
  | next :: rest =>
    match s.join? next with
    | some joined => joined :: rest
    | none => s :: next :: rest

def joinBack (s : Segment) : List Segment → List Segment
  | [] => [s]
  | [last] =>
    match last.join? s with
    | some joined => [joined]
    | none => [last, s]
  | a :: b :: rest => a :: joinBack s (b :: rest)

/-- The segments with each run of literals joined. -/
def normalize (segments : List Segment) : List Segment :=
  segments.foldr joinFront []

theorem Separated.replace_head {a b : Segment} {rest : List Segment}
    (hab : a.isLiteral = b.isLiteral) (h : Separated (b :: rest)) : Separated (a :: rest) := by
  cases rest with
  | nil => trivial
  | cons next rest => exact ⟨hab ▸ h.1, h.2⟩

theorem Separated.joinFront (s : Segment) {segments : List Segment} (h : Separated segments) :
    Separated (joinFront s segments) := by
  cases segments with
  | nil => trivial
  | cons next rest =>
    simp only [SerialFrame.joinFront]
    cases hjoin : s.join? next with
    | some joined =>
      obtain ⟨-, hnext, hjoined⟩ := Segment.isLiteral_of_join? hjoin
      exact h.replace_head (hjoined.trans hnext.symm)
    | none => exact ⟨Segment.join?_eq_none_iff.mp hjoin, h⟩

theorem separated_normalize (segments : List Segment) : Separated (normalize segments) := by
  induction segments with
  | nil => trivial
  | cons s rest ih => exact ih.joinFront s

/-- Segments in which no literal follows a literal are left as they are. -/
theorem Separated.normalize_eq {segments : List Segment} (h : Separated segments) :
    normalize segments = segments := by
  induction segments with
  | nil => rfl
  | cons s rest ih =>
    cases rest with
    | nil => rfl
    | cons next rest =>
      show SerialFrame.joinFront s (normalize (next :: rest)) = s :: next :: rest
      rw [ih h.2]
      simp only [SerialFrame.joinFront, Segment.join?_eq_none_iff.mpr h.1]

theorem joinFront_eq_cons (s : Segment) (segments : List Segment) :
    ∃ s' rest, joinFront s segments = s' :: rest ∧ s'.isLiteral = s.isLiteral := by
  cases segments with
  | nil => exact ⟨s, [], rfl, rfl⟩
  | cons next rest =>
    simp only [joinFront]
    cases hjoin : s.join? next with
    | some joined =>
      obtain ⟨hs, -, hjoined⟩ := Segment.isLiteral_of_join? hjoin
      exact ⟨joined, rest, rfl, hjoined.trans hs.symm⟩
    | none => exact ⟨s, next :: rest, rfl, rfl⟩

theorem joinBack_cons (s b : Segment) (rest : List Segment) :
    ∃ b' rest', joinBack s (b :: rest) = b' :: rest' ∧ b'.isLiteral = b.isLiteral := by
  cases rest with
  | nil =>
    simp only [joinBack]
    cases hjoin : b.join? s with
    | some joined =>
      obtain ⟨hb, -, hjoined⟩ := Segment.isLiteral_of_join? hjoin
      exact ⟨joined, [], rfl, hjoined.trans hb.symm⟩
    | none => exact ⟨b, [s], rfl, rfl⟩
  | cons c rest => exact ⟨b, _, rfl, rfl⟩

theorem Separated.joinBack (s : Segment) {segments : List Segment} (h : Separated segments) :
    Separated (joinBack s segments) := by
  induction segments with
  | nil => trivial
  | cons a rest ih =>
    cases rest with
    | nil =>
      simp only [SerialFrame.joinBack]
      cases hjoin : a.join? s with
      | some joined => trivial
      | none => exact ⟨Segment.join?_eq_none_iff.mp hjoin, trivial⟩
    | cons b rest =>
      obtain ⟨b', rest', heq, hlit⟩ := joinBack_cons s b rest
      have hback := ih h.2
      simp only [SerialFrame.joinBack]
      rw [heq] at hback ⊢
      exact ⟨hlit ▸ h.1, hback⟩

structure Template where
  segments : List Segment
  separated : Separated segments

namespace Template

instance : DecidableEq Template := fun a b =>
  decidable_of_iff (a.segments = b.segments) (by cases a; cases b; simp)

def empty : Template := ⟨[], trivial⟩

instance : Inhabited Template := ⟨empty⟩

def ofSegments (segments : List Segment) : Template :=
  ⟨normalize segments, separated_normalize segments⟩

/-- Adds a segment at the end; a literal behind a literal becomes part of it. -/
def push (t : Template) (s : Segment) : Template :=
  ⟨joinBack s t.segments, t.separated.joinBack s⟩

/-- Adds hex text at the end; `fresh` is the id of the segment if one is opened. -/
def pushLiteral (t : Template) (fresh : SegmentId) (content : String) : Template :=
  t.push (.literal fresh content)

def pushToken (t : Template) (fresh : SegmentId) (tokenId : TokenId) : Template :=
  t.push (.token fresh tokenId)

def collect (segments : List Segment) : Template :=
  segments.foldl push empty

def append (t : Template) (segments : List Segment) : Template :=
  ofSegments (t.segments ++ segments)

def size (t : Template) : Nat :=
  t.segments.length

def tokenIds (t : Template) : List TokenId :=
  t.segments.filterMap Segment.tokenId?

end Template

end SerialFrame
