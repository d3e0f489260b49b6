import Mathlib.Tactic
import SerialFrame.Proofs.Frame.Placing

/-!
# Compiling goes over the leaves

`walk_eq_leaves`: walking segments does what placing their leaves in order does. The walk opens
containers on the way and the leaves do not, so the proof needs that placing a leaf neither looks
at nor changes which containers are open (`Build.Blind`). Hence `compile_eq_compileLeaves`.
-/

namespace SerialFrame

namespace Build

def Outcome.reopen (expanding : List TokenId) : Outcome → Outcome
  | .ok u a => .ok u { a with expanding }
  | .error e a => .error e { a with expanding }

/-- The work neither looks at the open containers nor changes them. -/
def Blind (m : Build Unit) : Prop :=
  ∀ a expanding, m { a with expanding } = Outcome.reopen expanding (m a)

theorem run_forM_cons {α : Type} (f : α → Build Unit) (x : α) (xs : List α) (a : Assembly) :
    (x :: xs).forM f a = match f x a with
      | .ok _ b => xs.forM f b
      | .error e b => .error e b :=
  run_bind (f x) (xs.forM f)

theorem run_forM_append {α : Type} (f : α → Build Unit) (xs ys : List α) (a : Assembly) :
    (xs ++ ys).forM f a = match xs.forM f a with
      | .ok _ b => ys.forM f b
      | .error e b => .error e b := by
  induction xs generalizing a with
  | nil => rfl
  | cons x xs ih =>
    rw [List.cons_append, run_forM_cons, run_forM_cons]
    cases f x a with
    | ok u b => exact ih b
    | error e b => rfl

namespace Blind

variable {m n : Build Unit}

theorem pure : Blind (pure ()) := fun _ _ => rfl

theorem bind (hm : Blind m) (hn : Blind n) : Blind (m >>= fun _ => n) := by
  intro a expanding
  rw [run_bind, run_bind, hm a expanding]
  cases m a with
  | ok u b => exact hn b expanding
  | error e b => rfl

theorem forM {α : Type} {f : α → Build Unit} (hf : ∀ x, Blind (f x)) (xs : List α) :
    Blind (xs.forM f) := by
  induction xs with
  | nil => exact pure
  | cons x xs ih => exact (hf x).bind ih

theorem reopen_self (hm : Blind m) (a : Assembly) : Outcome.reopen a.expanding (m a) = m a :=
  (hm a a.expanding).symm

theorem expanding_eq (hm : Blind m) {a b : Assembly} (h : m a = .ok () b) :
    b.expanding = a.expanding := by
  have hself := hm.reopen_self a
  rw [h] at hself
  injection hself with _ hself
  rw [← hself]

theorem within (hm : Blind m) (id : TokenId) (a : Assembly) : within id m a = m a := by
  unfold Build.within
  rw [hm a, ← hm.reopen_self a]
  cases m a <;> simp [Outcome.reopen]

end Blind

end Build

namespace Compiler

variable {c : Compiler} {tokens : TokenTable} {a : Assembly}

theorem tick?_congr {id : TokenId} {s s' : CounterStore} (h : s'.get? id = s.get? id)
    (config : CounterConfig) : c.tick? id config s' = c.tick? id config s := by
  simp only [tick?, Counter.tick?, Counter.current, h]

/-- The edit of a leaf depends on the bytes so far and on how the counter at the leaf ticks. -/
theorem edit_congr_of_tick? {b : Assembly} {leaf : Leaf} (hbuffer : b.buffer = a.buffer)
    (htick : ∀ id config, leaf = .counter id config →
      c.tick? id config b.counters = c.tick? id config a.counters) :
    c.edit b leaf = c.edit a leaf := by
  cases leaf with
  | checksum => simp only [edit, hbuffer]
  | counter id config => simp only [edit, payload, payload?, htick id config rfl]
  | text | timestamp | unknown | dangling | recursive | tooDeep => rfl

theorem edit_congr {b : Assembly} {leaf : Leaf} (hbuffer : b.buffer = a.buffer)
    (hcounter : ∀ id config, leaf = .counter id config →
      b.counters.get? id = a.counters.get? id) : c.edit b leaf = c.edit a leaf :=
  edit_congr_of_tick? hbuffer fun id config heq => tick?_congr (hcounter id config heq) config

theorem warnings_congr {b : Assembly} (hbuffer : b.buffer = a.buffer) (leaf : Leaf) :
    c.warnings b leaf = c.warnings a leaf := by
  cases leaf <;> simp only [warnings, hbuffer]

theorem blind_placeLeaf (leaf : Leaf) : Build.Blind (c.placeLeaf leaf) := by
  intro a expanding
  set a' : Assembly := { a with expanding }
  have hedit : c.edit a' leaf = c.edit a leaf := edit_congr rfl fun _ _ _ => rfl
  have hwarn : c.warnings a' leaf = c.warnings a leaf := warnings_congr (b := a') (a := a) rfl leaf
  rw [placeLeaf_eq, placeLeaf_eq, outcome, outcome, effect, effect, hedit, hwarn]
  cases c.edit a leaf with
  | error e => rfl
  | ok edit =>
    have hafter : c.after a' leaf edit = { c.after a leaf edit with expanding } := by
      simp only [after, hwarn]
      rfl
    simp only [Except.map, Build.Outcome.judge, hafter]
    cases c.warnings a leaf with
    | nil => rfl
    | cons w ws =>
      dsimp only
      split <;> rfl

theorem blind_placeLeaves (leaves : List Leaf) : Build.Blind (leaves.forM c.placeLeaf) :=
  .forM blind_placeLeaf leaves

/-- The leaves of a segment do what the segment does, if this holds inside of containers. -/
theorem place_eq_leaves {walk : List Segment → Build Unit}
    {inside : List TokenId → List Segment → List Leaf}
    (hwalk : ∀ segments a, walk segments a = (inside a.expanding segments).forM c.placeLeaf a)
    (segment : Segment) (a : Assembly) :
    c.place tokens walk segment a =
      (Leaf.ofSegment tokens c.options.maxContainerDepth inside a.expanding segment).forM
        c.placeLeaf a := by
  have single : ∀ leaf, [leaf].forM c.placeLeaf a = c.placeLeaf leaf a := by
    intro leaf
    show (c.placeLeaf leaf >>= fun _ => pure ()) a = _
    rw [bind_pure_unit]
  unfold place Leaf.ofSegment
  cases segment.kind with
  | literal content =>
    dsimp only
    rw [single]
    rfl
  | token id =>
    dsimp only
    cases tokens.get? id with
    | none =>
      dsimp only
      rw [single]
      rfl
    | some t =>
      dsimp only [resolve, Leaf.ofToken]
      cases t.kind with
      | checksum | flag | timestamp | counter | unknown =>
        dsimp only
        rw [single]
        rfl
      | container children =>
        dsimp only [Build.expand]
        rw [Build.run_get_bind]
        by_cases hopen : t.id ∈ a.expanding
        · simp only [hopen, if_true]
          rw [single]
          rfl
        by_cases hdeep : c.options.maxContainerDepth ≤ a.expanding.length
        · simp only [hopen, hdeep, if_true, if_false]
          rw [single]
          rfl
        simp only [hopen, hdeep, if_false]
        have hblind := blind_placeLeaves (c := c) (inside (a.expanding ++ [t.id]) children.segments)
        rw [← hblind.within t.id a]
        unfold Build.within
        rw [hwalk]

theorem walk_eq_leaves (depth : Nat) (segments : List Segment) (a : Assembly) :
    c.walk tokens depth segments a =
      (Leaf.ofSegments tokens c.options.maxContainerDepth depth a.expanding segments).forM
        c.placeLeaf a := by
  induction depth generalizing segments a with
  | zero => rfl
  | succ depth ih =>
    show segments.forM (c.place tokens (c.walk tokens depth)) a =
      (segments.flatMap (Leaf.ofSegment tokens _ (Leaf.ofSegments tokens _ depth) a.expanding)).forM
        c.placeLeaf a
    induction segments generalizing a with
    | nil => rfl
    | cons segment rest ihRest =>
      rw [List.flatMap_cons, Build.run_forM_append]
      show (c.place tokens (c.walk tokens depth) segment >>= fun _ => rest.forM _) a = _
      rw [Build.run_bind, place_eq_leaves ih]
      cases h : (Leaf.ofSegment tokens c.options.maxContainerDepth
          (Leaf.ofSegments tokens c.options.maxContainerDepth depth) a.expanding segment).forM
            c.placeLeaf a with
      | error e b => rfl
      | ok u b =>
        dsimp only
        rw [ihRest, (blind_placeLeaves _).expanding_eq h]

theorem walk_start (segments : List Segment) (store : CounterStore) :
    c.walk tokens (tokens.containers.length + 1) segments { counters := store } =
      (c.leaves tokens segments).forM c.placeLeaf { counters := store } :=
  walk_eq_leaves _ _ _

theorem compile_eq_compileLeaves (segments : List Segment) (store : CounterStore) :
    c.compile segments tokens store = c.compileLeaves (c.leaves tokens segments) store := by
  unfold compile compileLeaves
  rw [walk_start]
  cases (c.leaves tokens segments).forM c.placeLeaf { counters := store } <;> rfl

end Compiler

end SerialFrame
