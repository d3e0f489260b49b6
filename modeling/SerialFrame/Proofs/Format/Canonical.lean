import SerialFrame.Proofs.Format.Counters
import SerialFrame.Proofs.Hex.Digit
import SerialFrame.Proofs.Hex.Lenient

/-!
# The canonical form of hex text

Bytes have one text that is written for them and many that are read as them. `Hex.canonical` brings
each text that is read exactly to the one that is written (`Hex.compact_of_readExact`). So a store
that was read from a file is written with the values of that file in canonical form, in ascending
order of the ids, and reads back as it was: `written_canonically`.
-/

namespace SerialFrame

namespace Hex

def canonical (text : String) : String :=
  String.ofList ((text.toList.filter fun c => !Text.isBlank c).map Char.toUpper)

theorem nibbles_byte (high low : Nibble) :
    highNibble (byte high low) = high ∧ lowNibble (byte high low) = low := by
  revert high low
  decide

theorem compactChars_pack {halves : List Nibble} (h : halves.length % 2 = 0) :
    compactChars (pack halves) = halves.map digit := by
  fun_induction pack halves with
  | case1 high low rest ih =>
    obtain ⟨hhigh, hlow⟩ := nibbles_byte high low
    have heven : rest.length % 2 = 0 := by
      rw [List.length_cons, List.length_cons] at h
      omega
    have hpair : digitPair (byte high low) = [digit high, digit low] := by
      rw [digitPair, hhigh, hlow]
    change digitPair (byte high low) ++ compactChars (pack rest) = _
    rw [hpair, ih heven]
    rfl
  | case2 halves hshort =>
    rcases halves with _ | ⟨high, _ | ⟨low, rest⟩⟩
    · rfl
    · cases h
    · exact absurd rfl (hshort high low rest)

theorem filter_not_isBlank {text : List Char} (h : strays text = []) :
    text.filter (fun c => !Text.isBlank c) = digits text := by
  refine List.filter_congr fun c hc => ?_
  have hstray : ¬ isStray c = true := List.filter_eq_nil_iff.mp h c hc
  cases hdigit : isDigit c with
  | true => rw [not_isBlank_of_isDigit hdigit, Bool.not_false]
  | false => simpa [isStray, hdigit] using hstray

theorem compact_of_readExact {text : String} {bytes : Bytes} (h : readExact text = .ok bytes) :
    compact bytes = canonical text := by
  obtain ⟨hstrays, heven, rfl⟩ := readExact_eq_ok_iff.mp h
  rw [compact, canonical, compactChars_pack heven, filter_not_isBlank hstrays,
    map_nibbles fun _ _ => digit_eq_toUpper]

end Hex

namespace CounterStore

/-- The texts of the values that a document lists, as they stand there. -/
def listed? (j : Json) : Option (List (TokenId × String)) := do
  (← j.fields?).mapM fun field => do return ((⟨field.1⟩ : TokenId), ← field.2.string?)

theorem valueOfJson?_eq_some_iff {j : Json} {value : Bytes} :
    valueOfJson? j = some value ↔
      ∃ text, j.string? = some text ∧ Hex.readExact text = .ok value := by
  rw [valueOfJson?, Option.bind_eq_bind, Option.bind_eq_some_iff]
  refine exists_congr fun text => and_congr_right fun _ => ?_
  cases Hex.readExact text <;> simp

theorem exists_listed {fields : List (String × Json)} {entries : List (TokenId × Bytes)}
    (h : (fields.mapM fun field => do return ((⟨field.1⟩ : TokenId), ← valueOfJson? field.2)) =
      some entries) :
    ∃ listed : List (TokenId × String),
      (fields.mapM fun field => do return ((⟨field.1⟩ : TokenId), ← field.2.string?)) =
        some listed ∧
      (listed.map fun entry => (entry.1, Hex.readExact entry.2)) =
        entries.map fun entry => (entry.1, .ok entry.2) := by
  induction fields generalizing entries with
  | nil =>
    obtain rfl := Option.some.inj h
    exact ⟨[], rfl, rfl⟩
  | cons field fields ih =>
    rw [List.mapM_cons] at h
    obtain ⟨first, hfirst, h⟩ := Option.bind_eq_some_iff.mp h
    obtain ⟨rest, hrest, h⟩ := Option.bind_eq_some_iff.mp h
    obtain ⟨value, hvalue, hfirst⟩ := Option.bind_eq_some_iff.mp hfirst
    obtain ⟨text, htext, hread⟩ := valueOfJson?_eq_some_iff.mp hvalue
    obtain ⟨listed, hlisted, hsame⟩ := ih hrest
    obtain rfl := Option.some.inj hfirst
    obtain rfl := Option.some.inj h
    refine ⟨(⟨field.1⟩, text) :: listed, ?_, ?_⟩
    · rw [List.mapM_cons, htext, hlisted]
      rfl
    · rw [List.map_cons, List.map_cons, hread, hsame]

theorem lookup_map {α β : Type} (f : α → β) (entries : List (TokenId × α)) (id : TokenId) :
    (entries.map fun entry => (entry.1, f entry.2)).lookup id = (entries.lookup id).map f :=
  IdMap.lookup_mapValues (fun _ => f) entries

/-- What a store has under an id is what the last text that is listed there spells. -/
theorem listed_of_ofJson? {j : Json} {s : CounterStore} (h : ofJson? j = some s) :
    ∃ listed, listed? j = some listed ∧
      ∀ id, (listed.reverse.lookup id).map Hex.readExact = (s.get? id).map .ok := by
  rw [ofJson?, Option.bind_eq_bind, Option.bind_eq_some_iff] at h
  obtain ⟨fields, hfields, h⟩ := h
  obtain ⟨entries, hentries, h⟩ := Option.bind_eq_some_iff.mp h
  obtain ⟨listed, hlisted, hsame⟩ := exists_listed hentries
  obtain rfl := Option.some.inj h
  refine ⟨listed, ?_, fun id => ?_⟩
  · rw [listed?, hfields]
    exact hlisted
  · rw [get?, IdMap.get?_ofList, ← lookup_map, ← lookup_map, List.map_reverse, List.map_reverse,
      hsame]

theorem listed?_toJson (s : CounterStore) :
    listed? s.toJson = some (s.values.entries.map fun entry => (entry.1, Hex.compact entry.2)) := by
  rw [listed?, toJson, Json.fields?_ofFields, Option.bind_eq_bind, Option.bind_some]
  induction s.values.entries with
  | nil => rfl
  | cons entry entries ih =>
    rw [List.map_cons, List.mapM_cons, ih, Json.string?_ofString]
    rfl

/-- Bytes that are written, in either form, are read back by both readers without loss. A text that
is read exactly is written in its canonical form. A store that was read has the values that its text
lists, the last one where an id is listed again. It is written with each of these in canonical form,
in ascending order of the ids, and reads back as the same store. -/
theorem written_canonically :
    (∀ bytes,
      Hex.readLenient (Hex.spaced bytes) = ⟨bytes, 0, none⟩ ∧
      Hex.readLenient (Hex.compact bytes) = ⟨bytes, 0, none⟩ ∧
      Hex.readExact (Hex.spaced bytes) = .ok bytes ∧
      Hex.readExact (Hex.compact bytes) = .ok bytes) ∧
    (∀ text bytes, Hex.readExact text = .ok bytes → Hex.compact bytes = Hex.canonical text) ∧
    ∀ text s, parse text = some s →
      (∃ j listed written, Json.parse text = some j ∧ listed? j = some listed ∧
        (∀ id, (listed.reverse.lookup id).map Hex.readExact = (s.get? id).map .ok) ∧
        listed? s.toJson = some written ∧ written.Pairwise (fun a b => a.1 < b.1) ∧
        ∀ id, written.lookup id = (listed.reverse.lookup id).map Hex.canonical) ∧
      parse s.toJson.compact = some s ∧ parse s.toJson.pretty = some s := by
  refine ⟨fun bytes => ?_, fun text bytes => Hex.compact_of_readExact, fun text s h => ?_⟩
  · have hspaced := Hex.readExact_spaced bytes
    have hcompact := Hex.readExact_compact bytes
    exact ⟨Hex.readLenient_of_readExact hspaced, Hex.readLenient_of_readExact hcompact, hspaced,
      hcompact⟩
  · refine ⟨?_, s.parse_written .compact, s.parse_pretty⟩
    obtain ⟨j, hj, hs⟩ := Option.bind_eq_some_iff.mp h
    obtain ⟨listed, hlisted, hvalues⟩ := listed_of_ofJson? hs
    refine ⟨j, listed, _, hj, hlisted, hvalues, s.listed?_toJson,
      List.pairwise_map.mpr s.values.sorted, fun id => ?_⟩
    have hvalue := hvalues id
    rw [lookup_map]
    change (s.get? id).map Hex.compact = _
    cases htext : listed.reverse.lookup id with
    | none =>
      rw [htext, Option.map_none, eq_comm, Option.map_eq_none_iff] at hvalue
      rw [hvalue]
      rfl
    | some text =>
      rw [htext, Option.map_some, eq_comm, Option.map_eq_some_iff] at hvalue
      obtain ⟨value, hget, hread⟩ := hvalue
      rw [hget, Option.map_some, Option.map_some, Hex.compact_of_readExact hread.symm]

/-- The text lists the ids in descending order and `a` twice, in lower case and with blanks inside
of bytes. -/
theorem written_canonically_relisted :
    let text := "\x7b\"b\":\"a b\", \"a\":\"01\",\"a\":\"0\u20030 1f\"\x7d"
    let s : CounterStore := (CounterStore.empty.set ⟨"a"⟩ [0x00, 0x1F]).set ⟨"b"⟩ [0xAB]
    parse text = some s ∧ Hex.readExact "0\u20030 1f" = .ok [0x00, 0x1F] ∧
      Hex.compact [0x00, 0x1F] = Hex.canonical "0\u20030 1f" ∧
      s.toJson.compact = "\x7b\"a\":\"001F\",\"b\":\"AB\"\x7d" ∧
      parse s.toJson.compact = some s ∧ parse s.toJson.pretty = some s := by
  intro text s
  obtain ⟨-, hcanonical, hstores⟩ := written_canonically
  have hparse : parse text = some s := by decide +kernel
  have hread : Hex.readExact "0\u20030 1f" = .ok [0x00, 0x1F] := by decide +kernel
  obtain ⟨-, hcompact, hpretty⟩ := hstores text s hparse
  exact ⟨hparse, hread, hcanonical _ _ hread, by decide +kernel, hcompact, hpretty⟩

end CounterStore

end SerialFrame
