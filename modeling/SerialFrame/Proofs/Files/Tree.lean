import Mathlib.Tactic.SplitIfs
import SerialFrame.Files.Map
import SerialFrame.Files.Tree
import SerialFrame.IdMap.Lemmas

/-!
# The files of a tree as a map

A tree is no map: many paths lead to one file, and a sink takes what is written and does not keep
it. Seen through paths that lead to places of their own (`FileTree.Apart`) it is one, since a write
changes no directory and so leaves all these paths where they lead. The names of files in the
working directory are such paths (`apart_of_names`).
-/

namespace SerialFrame

namespace FileTree

variable {t t' : FileTree} {place other : List String} {path : String} {paths : List String}
  {contents : ByteArray} {node : Node}

/-! ### Nodes -/

theorem node?_put (h : place ≠ []) :
    (t.put place node).node? other = if other = place then some node else t.node? other := by
  unfold node? put
  by_cases hroot : other = []
  · rw [if_pos hroot, if_neg (hroot ▸ h.symm), if_pos hroot]
  · dsimp only
    rw [if_neg hroot, if_neg hroot, IdMap.lookup_cons_eq, IdMap.lookup_filter_ne]
    split <;> rfl

theorem ne_nil_of_node?_ne (h : t.node? place ≠ some .directory) : place ≠ [] := by
  rintro rfl
  exact h rfl

theorem follow_put (h : t.node? place ≠ some .directory) {names start : List String}
    (hfollow : t.follow start names = .ok other) :
    (t.put place (.file contents)).follow start names = .ok other := by
  induction names generalizing start with
  | nil => exact hfollow
  | cons name rest ih =>
    rw [follow] at hfollow ⊢
    cases hstart : t.node? start with
    | none =>
      rw [hstart] at hfollow
      cases hfollow
    | some startNode =>
      rw [hstart] at hfollow
      cases startNode with
      | file _ => cases hfollow
      | sink => cases hfollow
      | directory =>
        have hne : start ≠ place := by
          rintro rfl
          exact h hstart
        rw [node?_put (ne_nil_of_node?_ne h), if_neg hne, hstart]
        dsimp only at hfollow ⊢
        split_ifs at hfollow ⊢ with hstay hup
        · exact ih hfollow
        · exact ih hfollow
        · exact ih hfollow

theorem resolve_put (h : t.node? place ≠ some .directory) (hresolve : t.resolve path = .ok other) :
    (t.put place (.file contents)).resolve path = .ok other := by
  unfold resolve at hresolve ⊢
  split_ifs at hresolve ⊢ with hempty hmalformed
  all_goals exact follow_put h hresolve

/-- A write goes to the place of its path, which is no directory: it puts a file there, or there is
a sink and nothing changes. -/
theorem write?_eq_some (h : t.write? path contents = some t') :
    ∃ place, t.resolve path = .ok place ∧ t.node? place ≠ some .directory ∧
      (t.node? place = some .sink ∨ t' = t.put place (.file contents)) := by
  unfold write? at h
  cases hresolve : t.resolve path with
  | error e =>
    rw [hresolve] at h
    cases h
  | ok place =>
    rw [hresolve] at h
    refine ⟨place, rfl, ?_⟩
    dsimp only at h
    split at h
    · cases h
    · next hnode => exact ⟨by simp [hnode], .inl hnode⟩
    · next hdirectory _ =>
      split at h
      · cases h
      · exact ⟨hdirectory, .inr (Option.some.inj h).symm⟩
    · cases h

theorem writeFile_of_some (h : t.write? path contents = some t') :
    (FileAccess.writeFile path contents : StateM FileTree Bool) t = (true, t') := by
  simp only [FileAccess.writeFile, h]

theorem writeFile_of_none (h : t.write? path contents = none) :
    (FileAccess.writeFile path contents : StateM FileTree Bool) t = (false, t) := by
  simp only [FileAccess.writeFile, h]

/-! ### Paths to places of their own -/

/-- Each of the paths leads to a place that no other of them leads to, and where there is no
sink. -/
structure Apart (t : FileTree) (paths : List String) : Prop where
  leads : ∀ path ∈ paths, ∃ place, t.resolve path = .ok place ∧ t.node? place ≠ some .sink
  injective : ∀ path ∈ paths, ∀ path' ∈ paths, t.resolve path = t.resolve path' → path = path'

namespace Apart

theorem exists_put (h : t.Apart paths) (hpath : path ∈ paths)
    (hwrite : t.write? path contents = some t') :
    ∃ place, t.resolve path = .ok place ∧ t.node? place ≠ some .directory ∧
      t' = t.put place (.file contents) := by
  obtain ⟨place, hresolve, hdirectory, hsink | hput⟩ := write?_eq_some hwrite
  · obtain ⟨place', hresolve', hnode⟩ := h.leads path hpath
    obtain rfl := Except.ok.inj (hresolve.symm.trans hresolve')
    exact absurd hsink hnode
  · exact ⟨place, hresolve, hdirectory, hput⟩

theorem resolve_write? (h : t.Apart paths) (hpath : path ∈ paths)
    (hwrite : t.write? path contents = some t') :
    ∀ path' ∈ paths, t'.resolve path' = t.resolve path' := by
  intro path' hpath'
  obtain ⟨place, -, hdirectory, rfl⟩ := h.exists_put hpath hwrite
  obtain ⟨place', hresolve', -⟩ := h.leads path' hpath'
  rw [resolve_put hdirectory hresolve', hresolve']

theorem write? (h : t.Apart paths) (hpath : path ∈ paths)
    (hwrite : t.write? path contents = some t') : t'.Apart paths := by
  have hsame := h.resolve_write? hpath hwrite
  refine ⟨fun path' hpath' => ?_, fun path' hpath' path'' hpath'' heq => ?_⟩
  · obtain ⟨place, -, hdirectory, rfl⟩ := h.exists_put hpath hwrite
    obtain ⟨place', hresolve', hsink⟩ := h.leads path' hpath'
    refine ⟨place', (hsame path' hpath').trans hresolve', ?_⟩
    rw [node?_put (ne_nil_of_node?_ne hdirectory)]
    split
    · simp
    · exact hsink
  · rw [hsame path' hpath', hsame path'' hpath''] at heq
    exact h.injective path' hpath' path'' hpath'' heq

theorem read_write? (h : t.Apart paths) (hpath : path ∈ paths)
    (hwrite : t.write? path contents = some t') {path' : String} (hpath' : path' ∈ paths) :
    t'.read path' = if path' = path then .ok contents else t.read path' := by
  have hsame := h.resolve_write? hpath hwrite path' hpath'
  obtain ⟨place, hresolve, hdirectory, rfl⟩ := h.exists_put hpath hwrite
  obtain ⟨place', hresolve', -⟩ := h.leads path' hpath'
  rw [read, hsame, hresolve']
  dsimp only
  rw [node?_put (ne_nil_of_node?_ne hdirectory)]
  by_cases hself : path' = path
  · subst hself
    obtain rfl := Except.ok.inj (hresolve.symm.trans hresolve')
    rw [if_pos rfl, if_pos rfl]
  · have hplace : place' ≠ place := by
      rintro rfl
      exact hself (h.injective path' hpath' path hpath (hresolve'.trans hresolve.symm))
    rw [if_neg hplace, if_neg hself, read, hresolve']

end Apart

/-! ### Names in the working directory -/

structure IsName (name : String) : Prop where
  ne_empty : name ≠ ""
  ne_dot : name ≠ "."
  ne_dots : name ≠ ".."
  not_slash : '/' ∉ name.toList
  not_null : '\x00' ∉ name.toList
  short : name.utf8ByteSize ≤ nameLimit

instance (name : String) : Decidable (IsName name) :=
  decidable_of_iff (name ≠ "" ∧ name ≠ "." ∧ name ≠ ".." ∧ '/' ∉ name.toList ∧
      '\x00' ∉ name.toList ∧ name.utf8ByteSize ≤ nameLimit)
    ⟨fun ⟨hempty, hdot, hdots, hslash, hnull, hshort⟩ =>
      ⟨hempty, hdot, hdots, hslash, hnull, hshort⟩,
    fun ⟨hempty, hdot, hdots, hslash, hnull, hshort⟩ =>
      ⟨hempty, hdot, hdots, hslash, hnull, hshort⟩⟩

theorem IsName.pathNames_eq {name : String} (h : IsName name) : pathNames name = [name] := by
  have hsplit : name.toList.splitOn '/' = [name.toList] := by
    refine List.splitOnP_eq_singleton fun c hc => beq_eq_false_iff_ne.mpr ?_
    rintro rfl
    exact h.not_slash hc
  rw [pathNames, hsplit, List.map_singleton, String.ofList_toList]

theorem IsName.resolve_eq {name : String} (h : IsName name)
    (hhere : t.node? t.here = some .directory) : t.resolve name = .ok (t.here ++ [name]) := by
  have hrelative : name.toList.head? ≠ some '/' := fun hhead =>
    h.not_slash (List.mem_of_mem_head? hhead)
  have hname : ¬ nameLimit < name.utf8ByteSize := Nat.not_lt.mpr h.short
  have hpath : ¬ pathLimit < name.utf8ByteSize :=
    Nat.not_lt.mpr (Nat.le_trans h.short (by decide))
  rw [resolve, if_neg h.ne_empty, if_neg (not_or.mpr ⟨h.not_null, hpath⟩),
    if_neg hrelative, h.pathNames_eq, follow, hhere]
  dsimp only
  rw [if_neg (not_or.mpr ⟨h.ne_empty, h.ne_dot⟩), if_neg h.ne_dots, if_neg hname, follow]

theorem apart_of_names (hhere : t.node? t.here = some .directory)
    (hnames : ∀ name ∈ paths, IsName name ∧ t.node? (t.here ++ [name]) ≠ some .sink) :
    t.Apart paths := by
  constructor
  · intro name hname
    exact ⟨_, (hnames name hname).1.resolve_eq hhere, (hnames name hname).2⟩
  · intro name hname name' hname' heq
    rw [(hnames name hname).1.resolve_eq hhere, (hnames name' hname').1.resolve_eq hhere] at heq
    exact List.singleton_inj.mp (List.append_cancel_left (Except.ok.inj heq))

example : fresh.Apart ["project.json", "state.json", "frame.bin"] := by
  have hfree : ∀ name ∈ ["project.json", "state.json", "frame.bin"],
      IsName name ∧ fresh.node? (fresh.here ++ [name]) = none := by decide +kernel
  refine apart_of_names rfl fun name hname => ⟨(hfree name hname).1, ?_⟩
  rw [(hfree name hname).2]
  exact (Option.some_ne_none _).symm

end FileTree

/-! ### The map -/

structure TreeView (paths : List String) where
  tree : FileTree
  apart : tree.Apart paths

namespace TreeView

variable {paths : List String} {path : String} {contents : ByteArray}

/-- Paths that are not among those of the view lead nowhere. -/
def found (v : TreeView paths) (path : String) : Except ReadFailure ByteArray :=
  if path ∈ paths then v.tree.read path else .error .unreadable

def write (v : TreeView paths) (path : String) (contents : ByteArray) : Bool × TreeView paths :=
  if hpath : path ∈ paths then
    match hwrite : v.tree.write? path contents with
    | some tree => (true, ⟨tree, v.apart.write? hpath hwrite⟩)
    | none => (false, v)
  else (false, v)

theorem write_of_some (v : TreeView paths) (hpath : path ∈ paths) {tree : FileTree}
    (hwrite : v.tree.write? path contents = some tree) :
    v.write path contents = (true, ⟨tree, v.apart.write? hpath hwrite⟩) := by
  rw [write, dif_pos hpath]
  split
  · next tree' hwrite' =>
    obtain rfl := Option.some.inj (hwrite.symm.trans hwrite')
    rfl
  · next hnone => cases hwrite.symm.trans hnone

theorem write_of_none (v : TreeView paths) (hwrite : v.tree.write? path contents = none) :
    v.write path contents = (false, v) := by
  unfold write
  split
  · split
    · next hsome => cases hwrite.symm.trans hsome
    · rfl
  · rfl

theorem write_of_not_mem (v : TreeView paths) (hpath : path ∉ paths) :
    v.write path contents = (false, v) :=
  dif_neg hpath

theorem found_write (v : TreeView paths) (path : String) (contents : ByteArray) :
    (v.write path contents).2.found =
      if (v.write path contents).1 then Function.update v.found path (.ok contents)
      else v.found := by
  by_cases hpath : path ∈ paths
  · cases hwrite : v.tree.write? path contents with
    | none => rw [v.write_of_none hwrite, if_neg Bool.false_ne_true]
    | some tree =>
      rw [v.write_of_some hpath hwrite, if_pos rfl]
      funext path'
      rw [Function.update_apply]
      by_cases hpath' : path' ∈ paths
      · rw [found, if_pos hpath', v.apart.read_write? hpath hwrite hpath', found, if_pos hpath']
      · have hne : path' ≠ path := fun heq => hpath' (heq ▸ hpath)
        rw [found, if_neg hpath', if_neg hne, found, if_neg hpath']
  · rw [v.write_of_not_mem hpath, if_neg Bool.false_ne_true]

instance : FileMap (TreeView paths) where
  found := found
  write := write
  found_write := found_write

end TreeView

end SerialFrame
