import SerialFrame.Format.Counters
import SerialFrame.IdMap.Lemmas
import SerialFrame.Proofs.Hex.Exact
import SerialFrame.Proofs.Json.RoundTrip

/-!
# Counter stores read back

A written store reads back as it was, whatever its ids are, however long its values and whichever
layout it is written in (`parse_written`).
-/

namespace SerialFrame.CounterStore

theorem valueOfJson?_compact (value : Bytes) :
    valueOfJson? (.ofString (Hex.compact value)) = some value := by
  simp only [valueOfJson?, Json.string?_ofString, Option.bind_eq_bind, Option.bind_some,
    Hex.readExact_compact]

theorem plain_toJson (s : CounterStore) : s.toJson.Plain := by
  refine .fields fun field hfield => ?_
  obtain ⟨entry, -, rfl⟩ := List.mem_map.mp hfield
  exact .text _

theorem mapM_valueOfJson? (entries : List (TokenId × Bytes)) :
    ((entries.map fun entry => (entry.1.text, Json.ofString (Hex.compact entry.2))).mapM
      fun field => do return ((⟨field.1⟩ : TokenId), ← valueOfJson? field.2)) = some entries := by
  induction entries with
  | nil => rfl
  | cons entry entries ih =>
    rw [List.map_cons, List.mapM_cons, ih, valueOfJson?_compact]
    rfl

theorem ofJson?_toJson (s : CounterStore) : ofJson? s.toJson = some s := by
  rw [ofJson?, toJson, Json.fields?_ofFields, Option.bind_eq_bind, Option.bind_some,
    mapM_valueOfJson?, Option.bind_eq_bind, Option.bind_some, IdMap.ofList_entries]
  rfl

theorem parse_written (s : CounterStore) (l : Json.Layout) :
    parse (String.ofList (l.written 0 s.toJson)) = some s := by
  rw [parse, Json.parse_written s.plain_toJson]
  exact s.ofJson?_toJson

theorem parse_pretty (s : CounterStore) : parse s.toJson.pretty = some s :=
  s.parse_written .pretty

end SerialFrame.CounterStore
