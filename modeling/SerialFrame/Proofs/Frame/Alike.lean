import SerialFrame.Proofs.Frame.Inlining

/-!
# Two compiles side by side

Two compiles that put the same leaves into the frame end alike if each leaf keeps what relates the
two frames half done (`Alike.foldlM`). A leaf does if it makes the same edit on both sides and
raises the same warnings (`Alike.put`).
-/

namespace SerialFrame

/-- Both fail with the same error, or both succeed with results that `R` relates. -/
inductive Alike {ε α β : Type} (R : α → β → Prop) : Except ε α → Except ε β → Prop
  | error (e : ε) : Alike R (.error e) (.error e)
  | ok {x : α} {y : β} (related : R x y) : Alike R (.ok x) (.ok y)

namespace Alike

variable {ε α β γ : Type} {R : α → β → Prop}

theorem of_ok {x : α} {y : β} (h : Alike R (.ok x : Except ε α) (.ok y)) : R x y := by
  cases h with
  | ok h => exact h

theorem eq_map {f : α → β} {x : Except ε α} {y : Except ε β}
    (h : Alike (fun x y => y = f x) x y) : y = x.map f := by
  cases h with
  | error e => rfl
  | ok h => rw [h, Except.map]

theorem map {α' β' : Type} {R' : α' → β' → Prop} {f : α → α'} {g : β → β'} {x : Except ε α}
    {y : Except ε β} (h : Alike R x y) (hmap : ∀ x y, R x y → R' (f x) (g y)) :
    Alike R' (x.map f) (y.map g) := by
  cases h with
  | error e => exact .error e
  | ok h => exact .ok (hmap _ _ h)

theorem trans {δ : Type} {R' : β → δ → Prop} {R'' : α → δ → Prop} {x : Except ε α} {y : Except ε β}
    {z : Except ε δ} (htrans : ∀ {x y z}, R x y → R' y z → R'' x z) (hxy : Alike R x y)
    (hyz : Alike R' y z) : Alike R'' x z := by
  cases hxy with
  | error e =>
    cases hyz with
    | error => exact .error e
  | ok hxy =>
    cases hyz with
    | ok hyz => exact .ok (htrans hxy hyz)

theorem bind {α' β' : Type} {R' : α' → β' → Prop} {f : α → Except ε α'} {g : β → Except ε β'}
    {x : Except ε α} {y : Except ε β} (h : Alike R x y)
    (hnext : ∀ x y, R x y → Alike R' (f x) (g y)) : Alike R' (x >>= f) (y >>= g) := by
  cases h with
  | error e => exact .error e
  | ok h => exact hnext _ _ h

theorem attach {x : Except ε α} {y : Except ε β} (h : Alike R x y) :
    Alike (fun a b => R a b ∧ x = .ok a ∧ y = .ok b) x y := by
  cases h with
  | error e => exact .error e
  | ok h => exact .ok ⟨h, rfl, rfl⟩

theorem foldlM {f : α → γ → Except ε α} {g : β → γ → Except ε β} {items : List γ}
    (step : ∀ item ∈ items, ∀ x y, R x y → Alike R (f x item) (g y item)) {x : α} {y : β}
    (h : R x y) : Alike R (items.foldlM f x) (items.foldlM g y) := by
  induction items generalizing x y with
  | nil => exact .ok h
  | cons item items ih =>
    rw [List.foldlM_cons, List.foldlM_cons]
    exact (step item List.mem_cons_self x y h).bind fun _ _ =>
      ih fun item hitem => step item (List.mem_cons_of_mem _ hitem)

end Alike

namespace Compiler

variable {c : Compiler} {a b : Assembly} {leaf : Leaf}

theorem put_eq (c : Compiler) (a : Assembly) (leaf : Leaf) :
    c.put a leaf =
      match c.edit a leaf with
      | .error e => .error e
      | .ok edit =>
        match c.warnings a leaf with
        | [] => .ok (c.after a leaf edit)
        | w :: _ =>
          if c.options.strict then .error (.degraded w) else .ok (c.after a leaf edit) := by
  rw [put, placeLeaf_eq, outcome, effect]
  cases c.edit a leaf with
  | error e => rfl
  | ok edit =>
    simp only [Except.map, Build.Outcome.judge]
    cases c.warnings a leaf with
    | nil => rfl
    | cons w rest =>
      dsimp only
      by_cases hstrict : c.options.strict = true
      · rw [if_pos hstrict, if_pos hstrict]
      · rw [if_neg hstrict, if_neg hstrict]

/-- A leaf has its effect, whatever it warns of, unless the options are strict. -/
theorem put_lenient (hlenient : c.options.strict = false) (a : Assembly) (leaf : Leaf) :
    c.put a leaf = c.effect a leaf := by
  rw [put_eq, effect]
  cases c.edit a leaf with
  | error e => rfl
  | ok edit => cases c.warnings a leaf <;> simp [hlenient, Except.map]

theorem alike_put {R : Assembly → Assembly → Prop} (hedit : c.edit b leaf = c.edit a leaf)
    (hwarnings : c.warnings b leaf = c.warnings a leaf)
    (hafter : ∀ edit, c.edit a leaf = .ok edit → R (c.after a leaf edit) (c.after b leaf edit)) :
    Alike R (c.put a leaf) (c.put b leaf) := by
  rw [put_eq, put_eq, hedit, hwarnings]
  cases hresult : c.edit a leaf with
  | error e => exact .error e
  | ok edit =>
    have hafter := hafter edit hresult
    cases c.warnings a leaf with
    | nil => exact .ok hafter
    | cons w rest =>
      dsimp only
      split
      · exact .error _
      · exact .ok hafter

end Compiler

end SerialFrame
