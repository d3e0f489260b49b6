import SerialFrame.IdMap

/-!
# Look-ups in maps

What each operation does to the look-ups of a map. `mem_entries_iff` says that the entries are the
look-ups that find something.
-/

namespace SerialFrame.IdMap

variable {α β : Type} {m : IdMap α} {id id' : TokenId} {value : α}

section Entries

variable {κ : Type} [BEq κ] [LawfulBEq κ] [DecidableEq κ] {key key' : κ}

theorem lookup_cons_eq (entry : κ × α) (rest : List (κ × α)) :
    (entry :: rest).lookup key = if key = entry.1 then some entry.2 else rest.lookup key := by
  rw [List.lookup_cons]
  by_cases h : key = entry.1
  · simp [h]
  · simp [h, beq_eq_false_iff_ne.mpr h]

theorem lookup_filter_ne (entries : List (κ × α)) :
    (entries.filter fun entry => entry.1 ≠ key).lookup key' =
      if key' = key then none else entries.lookup key' := by
  induction entries with
  | nil => simp
  | cons entry rest ih =>
    by_cases hkey : entry.1 = key
    · rw [List.filter_cons_of_neg (by simp [hkey]), ih, lookup_cons_eq, hkey]
      by_cases h : key' = key
      · rw [if_pos h, if_pos h]
      · rw [if_neg h, if_neg h, if_neg h]
    · rw [List.filter_cons_of_pos (by simp [hkey]), lookup_cons_eq, lookup_cons_eq, ih]
      by_cases h : key' = key
      · have hne : key' ≠ entry.1 := fun heq => hkey (heq ▸ h)
        rw [if_neg hne, if_pos h, if_pos h]
      · rw [if_neg h, if_neg h]

end Entries

theorem lookup_insertEntry (entries : List (TokenId × α)) :
    (insertEntry id value entries).lookup id' =
      if id' = id then some value else entries.lookup id' := by
  induction entries with
  | nil => rw [insertEntry, lookup_cons_eq]
  | cons entry rest ih =>
    unfold insertEntry
    split
    · rw [lookup_cons_eq]
    · split
      · next hlt =>
        rw [lookup_cons_eq, lookup_cons_eq, ih]
        by_cases h : id' = id
        · have hne : id' ≠ entry.1 := fun heq => TokenId.lt_irrefl id' (by rwa [← heq, ← h] at hlt)
          rw [if_neg hne, if_pos h, if_pos h]
        · rw [if_neg h, if_neg h]
      · next hnlt hngt =>
        have heq : id = entry.1 := TokenId.eq_of_not_lt hnlt hngt
        rw [lookup_cons_eq, lookup_cons_eq, ← heq]
        by_cases h : id' = id
        · rw [if_pos h, if_pos h]
        · rw [if_neg h, if_neg h, if_neg h]

theorem get?_insert : (m.insert id value).get? id' = if id' = id then some value else m.get? id' :=
  lookup_insertEntry m.entries

@[simp]
theorem get?_insert_self : (m.insert id value).get? id = some value := by
  simp [get?_insert]

theorem get?_insert_of_ne (h : id' ≠ id) : (m.insert id value).get? id' = m.get? id' := by
  simp [get?_insert, h]

@[simp]
theorem get?_empty : (empty : IdMap α).get? id = none := rfl

theorem get?_erase : (m.erase id).get? id' = if id' = id then none else m.get? id' :=
  lookup_filter_ne m.entries

theorem lookup_mapValues (f : TokenId → α → β) (entries : List (TokenId × α)) :
    (entries.map fun entry => (entry.1, f entry.1 entry.2)).lookup id =
      (entries.lookup id).map (f id) := by
  induction entries with
  | nil => rfl
  | cons entry rest ih =>
    rw [List.map_cons, lookup_cons_eq, lookup_cons_eq, ih]
    by_cases h : id = entry.1
    · rw [if_pos h, if_pos h, ← h, Option.map_some]
    · rw [if_neg h, if_neg h]

theorem get?_mapValues (f : TokenId → α → β) :
    (m.mapValues f).get? id = (m.get? id).map (f id) :=
  lookup_mapValues f m.entries

theorem mem_iff_lookup {entries : List (TokenId × α)}
    (hsorted : entries.Pairwise fun a b => a.1 < b.1) :
    (id, value) ∈ entries ↔ entries.lookup id = some value := by
  induction entries with
  | nil => simp
  | cons entry rest ih =>
    obtain ⟨hhead, hrest⟩ := List.pairwise_cons.mp hsorted
    rw [List.mem_cons, lookup_cons_eq, ih hrest]
    by_cases h : id = entry.1
    · have hnot : rest.lookup id ≠ some value := fun hmem =>
        have hlt : entry.1 < id := hhead _ ((ih hrest).mpr hmem)
        TokenId.lt_irrefl id (by rwa [← h] at hlt)
      rw [if_pos h]
      constructor
      · rintro (heq | hmem)
        · rw [← heq]
        · exact absurd hmem hnot
      · intro heq
        exact .inl (Prod.ext h (Option.some.inj heq).symm)
    · rw [if_neg h]
      exact or_iff_right fun heq => h (congrArg Prod.fst heq)

theorem mem_entries_iff : (id, value) ∈ m.entries ↔ m.get? id = some value :=
  mem_iff_lookup m.sorted

theorem nodup_entries (m : IdMap α) : m.entries.Nodup := by
  refine m.sorted.imp fun {a b} hlt => ?_
  rintro rfl
  exact TokenId.lt_irrefl _ hlt

theorem ext_get? {m m' : IdMap α} (h : ∀ id, m.get? id = m'.get? id) : m = m' := by
  have hperm : m.entries.Perm m'.entries := by
    refine (List.perm_ext_iff_of_nodup m.nodup_entries m'.nodup_entries).mpr ?_
    rintro ⟨id, value⟩
    rw [mem_entries_iff, mem_entries_iff, h]
  have hentries : m.entries = m'.entries :=
    hperm.eq_of_pairwise
      (fun _ _ _ _ hab hba => absurd (TokenId.lt_trans hab hba) (TokenId.lt_irrefl _))
      m.sorted m'.sorted
  cases m
  exact (mk.injEq ..).mpr hentries

theorem get?_foldl_insert (entries : List (TokenId × α)) (m : IdMap α) :
    (entries.foldl (fun m entry => m.insert entry.1 entry.2) m).get? id =
      (entries.reverse.lookup id).or (m.get? id) := by
  induction entries generalizing m with
  | nil => rfl
  | cons entry rest ih =>
    have hlast : ([entry].lookup id).or (m.get? id) = (m.insert entry.1 entry.2).get? id := by
      rw [lookup_cons_eq, get?_insert]
      by_cases h : id = entry.1
      · rw [if_pos h, if_pos h, Option.some_or]
      · rw [if_neg h, if_neg h, List.lookup_nil, Option.none_or]
    rw [List.foldl_cons, ih, List.reverse_cons, List.lookup_append, Option.or_assoc, hlast]

/-- Of several entries with one id the last is found. -/
theorem get?_ofList (entries : List (TokenId × α)) :
    (ofList entries).get? id = entries.reverse.lookup id := by
  rw [ofList, get?_foldl_insert, get?_empty, Option.or_none]

theorem insertEntry_of_lt {entries : List (TokenId × α)} (h : ∀ entry ∈ entries, entry.1 < id) :
    insertEntry id value entries = entries ++ [(id, value)] := by
  induction entries with
  | nil => rfl
  | cons entry rest ih =>
    have hlt : entry.1 < id := h entry List.mem_cons_self
    have hngt : ¬ id < entry.1 := fun hgt => TokenId.lt_irrefl id (TokenId.lt_trans hgt hlt)
    rw [insertEntry, if_neg hngt, if_pos hlt, ih fun e he => h e (List.mem_cons_of_mem _ he)]
    rfl

/-- Entries that are put in one after another, in ascending order, stand at the end. -/
theorem entries_foldl_insert (m : IdMap α) (rest : List (TokenId × α))
    (h : (m.entries ++ rest).Pairwise fun a b => a.1 < b.1) :
    (rest.foldl (fun m entry => m.insert entry.1 entry.2) m).entries = m.entries ++ rest := by
  induction rest generalizing m with
  | nil => rw [List.foldl_nil, List.append_nil]
  | cons entry rest ih =>
    obtain ⟨-, -, hlt⟩ := List.pairwise_append.mp h
    have hinsert : (m.insert entry.1 entry.2).entries = m.entries ++ [entry] :=
      insertEntry_of_lt fun e he => hlt e he entry List.mem_cons_self
    have happend : m.entries ++ entry :: rest = m.entries ++ [entry] ++ rest := by simp
    rw [List.foldl_cons, ih, hinsert, happend]
    rwa [hinsert, ← happend]

theorem ofList_entries (m : IdMap α) : ofList m.entries = m := by
  have h := entries_foldl_insert empty m.entries m.sorted
  cases m
  exact (mk.injEq ..).mpr h

end SerialFrame.IdMap
