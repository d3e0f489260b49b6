import SerialFrame.Counter.Store
import SerialFrame.IdMap.Lemmas

/-!
# Look-ups in tables and stores
-/

namespace SerialFrame

namespace CounterStore

variable {s : CounterStore} {id : TokenId} {value : Bytes}

theorem get?_set_self : (s.set id value).get? id = some value :=
  IdMap.get?_insert_self

theorem get?_set_of_ne {id' : TokenId} (h : id' ≠ id) : (s.set id value).get? id' = s.get? id' :=
  IdMap.get?_insert_of_ne h

theorem get?_forget_self : (s.forget id).get? id = none :=
  IdMap.get?_erase.trans (if_pos rfl)

theorem get?_forget_of_ne {id' : TokenId} (h : id' ≠ id) : (s.forget id).get? id' = s.get? id' :=
  IdMap.get?_erase.trans (if_neg h)

theorem ext_get? {s' : CounterStore} (h : ∀ id, s.get? id = s'.get? id) : s = s' :=
  congrArg mk (IdMap.ext_get? h)

end CounterStore

namespace TokenTable

variable {tokens : TokenTable} {id : TokenId} {t : Token}

instance : Decidable tokens.Keyed :=
  inferInstanceAs (Decidable (∀ entry ∈ tokens.byId.entries, entry.2.id = entry.1))

theorem mem_tokens_iff : t ∈ tokens.tokens ↔ ∃ key, tokens.get? key = some t := by
  constructor
  · intro h
    obtain ⟨⟨key, _⟩, hentry, rfl⟩ := List.mem_map.mp h
    exact ⟨key, IdMap.mem_entries_iff.mp hentry⟩
  · rintro ⟨key, hget⟩
    exact List.mem_map.mpr ⟨(key, t), IdMap.mem_entries_iff.mpr hget, rfl⟩

theorem Keyed.get?_iff (hkeyed : tokens.Keyed) :
    tokens.get? id = some t ↔ t ∈ tokens.tokens ∧ t.id = id := by
  constructor
  · intro hget
    exact ⟨mem_tokens_iff.mpr ⟨id, hget⟩, hkeyed (id, t) (IdMap.mem_entries_iff.mpr hget)⟩
  · rintro ⟨ht, rfl⟩
    obtain ⟨key, hget⟩ := mem_tokens_iff.mp ht
    have hkey : t.id = key := hkeyed (key, t) (IdMap.mem_entries_iff.mpr hget)
    rwa [hkey]

end TokenTable

end SerialFrame
