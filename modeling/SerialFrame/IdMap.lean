import SerialFrame.Id

/-!
# Maps from token ids

An `IdMap` lists its entries in ascending order of their ids, each id once. Two maps with the same
look-ups are equal, and a map is written to a file in the order of its entries.
-/

namespace SerialFrame

structure IdMap (α : Type) where
  entries : List (TokenId × α)
  sorted : entries.Pairwise fun a b => a.1 < b.1
  deriving DecidableEq, Repr

namespace IdMap

variable {α β : Type}

/-- Puts an entry where its id belongs, in place of one with the same id. -/
def insertEntry (id : TokenId) (value : α) : List (TokenId × α) → List (TokenId × α)
  | [] => [(id, value)]
  | entry :: rest =>
    if id < entry.1 then (id, value) :: entry :: rest
    else if entry.1 < id then entry :: insertEntry id value rest
    else (id, value) :: rest

theorem mem_insertEntry {id : TokenId} {value : α} {entries : List (TokenId × α)}
    {entry : TokenId × α} (h : entry ∈ insertEntry id value entries) :
    entry = (id, value) ∨ entry ∈ entries := by
  induction entries with
  | nil => exact .inl (List.mem_singleton.mp h)
  | cons head rest ih =>
    unfold insertEntry at h
    split at h
    · exact List.mem_cons.mp h
    · split at h
      · rcases List.mem_cons.mp h with rfl | h
        · exact .inr (List.mem_cons_self ..)
        · exact (ih h).imp_right (List.mem_cons_of_mem _)
      · rcases List.mem_cons.mp h with rfl | h
        · exact .inl rfl
        · exact .inr (List.mem_cons_of_mem _ h)

theorem sorted_insertEntry (id : TokenId) (value : α) {entries : List (TokenId × α)}
    (h : entries.Pairwise fun a b => a.1 < b.1) :
    (insertEntry id value entries).Pairwise fun a b => a.1 < b.1 := by
  induction entries with
  | nil => exact List.pairwise_singleton _ _
  | cons head rest ih =>
    obtain ⟨hhead, hrest⟩ := List.pairwise_cons.mp h
    unfold insertEntry
    split
    · next hlt =>
      refine List.pairwise_cons.mpr ⟨fun entry hmem => ?_, h⟩
      rcases List.mem_cons.mp hmem with rfl | hmem
      · exact hlt
      · exact TokenId.lt_trans hlt (hhead entry hmem)
    · split
      · next hlt =>
        refine List.pairwise_cons.mpr ⟨fun entry hmem => ?_, ih hrest⟩
        rcases mem_insertEntry hmem with rfl | hmem
        · exact hlt
        · exact hhead entry hmem
      · next hnlt hngt =>
        have heq : id = head.1 := TokenId.eq_of_not_lt hnlt hngt
        exact List.pairwise_cons.mpr ⟨fun entry hmem => heq ▸ hhead entry hmem, hrest⟩

def empty : IdMap α := ⟨[], .nil⟩

instance : EmptyCollection (IdMap α) := ⟨empty⟩

instance : Inhabited (IdMap α) := ⟨empty⟩

def get? (m : IdMap α) (id : TokenId) : Option α :=
  m.entries.lookup id

def contains (m : IdMap α) (id : TokenId) : Bool :=
  (m.get? id).isSome

def insert (m : IdMap α) (id : TokenId) (value : α) : IdMap α :=
  ⟨insertEntry id value m.entries, sorted_insertEntry id value m.sorted⟩

def erase (m : IdMap α) (id : TokenId) : IdMap α :=
  ⟨m.entries.filter fun entry => entry.1 ≠ id, m.sorted.filter _⟩

def mapValues (f : TokenId → α → β) (m : IdMap α) : IdMap β :=
  ⟨m.entries.map fun entry => (entry.1, f entry.1 entry.2),
    List.pairwise_map.mpr m.sorted⟩

def modify (m : IdMap α) (id : TokenId) (f : α → α) : IdMap α :=
  m.mapValues fun id' value => if id' = id then f value else value

/-- The map with the given entries; of several with one id the last counts. -/
def ofList (entries : List (TokenId × α)) : IdMap α :=
  entries.foldl (fun m entry => m.insert entry.1 entry.2) empty

def ids (m : IdMap α) : List TokenId :=
  m.entries.map (·.1)

def values (m : IdMap α) : List α :=
  m.entries.map (·.2)

def size (m : IdMap α) : Nat :=
  m.entries.length

def isEmpty (m : IdMap α) : Bool :=
  m.entries.isEmpty

end IdMap

end SerialFrame
