import SerialFrame.Frame.Trace
import SerialFrame.Proofs.Frame.Inlining
import SerialFrame.Proofs.Hex.Lenient
import SerialFrame.Sample.Projects

/-!
# Every typed character is accounted for

What a hex text put into a frame, and the warnings that it raised, make up for all of its characters
but the blanks (`TextEntry.Accounted`). A compile reads each text that it meets in this way
(`steps_of_compile`), and no other warning of a frame is about hex text (`text_warnings_eq`), so the
accounts of the texts add up to the account of the frame: `characters_accounted`.
-/

namespace SerialFrame

namespace Hex.Reading

variable (r : Reading) (origin : Origin)

theorem strippedCounts_warnings :
    (r.warnings origin).filterMap Warning.strippedCount? =
      if 0 < r.stripped then [r.stripped] else [] := by
  rw [warnings, List.filterMap_append]
  cases r.droppedNibble <;> split <;> rfl

theorem droppedNibbles_warnings :
    (r.warnings origin).filterMap Warning.droppedNibble? = r.droppedNibble.toList := by
  rw [warnings, List.filterMap_append]
  cases r.droppedNibble <;> split <;> rfl

theorem origin?_of_mem_warnings {w : Warning} (h : w ∈ r.warnings origin) :
    w.origin? = some origin := by
  rcases List.mem_append.mp h with h | h
  · split at h
    · rw [List.mem_singleton.mp h]
      rfl
    · cases h
  · obtain ⟨nibble, -, rfl⟩ := Option.map_eq_some_iff.mp (Option.mem_toList.mp h)
    rfl

theorem warnings_eq_nil_iff :
    r.warnings origin = [] ↔ r.stripped = 0 ∧ r.droppedNibble = none := by
  simp [warnings]

end Hex.Reading

namespace TextEntry

def read (origin : Origin) (content : String) : TextEntry :=
  { origin, content
    bytes := (Hex.readLenient content).bytes
    warnings := (Hex.readLenient content).warnings origin }

/-- The bytes and the warnings of a text make up for its characters: two digits stand for a byte,
and what is lost is reported under the origin of the text, once for each kind of loss. -/
structure Accounted (t : TextEntry) : Prop where
  digits : (Hex.digits t.content.toList).length =
    2 * t.bytes.length + (t.warnings.filterMap Warning.droppedNibble?).length
  strays : (Hex.strays t.content.toList).length = (t.warnings.filterMap Warning.strippedCount?).sum
  stripped_le : (t.warnings.filterMap Warning.strippedCount?).length ≤ 1
  dropped_le : (t.warnings.filterMap Warning.droppedNibble?).length ≤ 1
  origin : ∀ w ∈ t.warnings, w.origin? = some t.origin
  exact_iff : ∀ bytes, Hex.readExact t.content = .ok bytes ↔ t.warnings = [] ∧ t.bytes = bytes

theorem accounted_read (origin : Origin) (content : String) : (read origin content).Accounted := by
  set r := Hex.readLenient content with hr
  have hstrays : r.stripped = (Hex.strays content.toList).length := by
    rw [hr, Hex.readLenient_eq]
  have hstripped := r.strippedCounts_warnings origin
  have hdropped := r.droppedNibbles_warnings origin
  constructor
  · change _ = 2 * r.bytes.length + ((r.warnings origin).filterMap _).length
    rw [hdropped]
    exact Hex.length_digits_eq content
  · change (Hex.strays content.toList).length = ((r.warnings origin).filterMap _).sum
    rw [hstripped, ← hstrays]
    split
    · rfl
    · next hnone => exact Nat.eq_zero_of_not_pos hnone
  · change ((r.warnings origin).filterMap _).length ≤ 1
    rw [hstripped]
    split <;> simp
  · change ((r.warnings origin).filterMap _).length ≤ 1
    rw [hdropped]
    cases r.droppedNibble <;> simp
  · exact fun w => r.origin?_of_mem_warnings origin
  · intro bytes
    change Hex.readExact content = _ ↔ r.warnings origin = [] ∧ r.bytes = bytes
    rw [Hex.readExact_eq_ok_iff_readLenient, ← hr, r.warnings_eq_nil_iff]
    cases r
    simp only [Hex.Reading.mk.injEq]
    tauto

variable {texts : List TextEntry}

theorem sum_digits (h : ∀ t ∈ texts, t.Accounted) :
    (texts.map fun t => (Hex.digits t.content.toList).length).sum =
      2 * (texts.map fun t => t.bytes.length).sum +
        ((texts.flatMap (·.warnings)).filterMap Warning.droppedNibble?).length := by
  induction texts with
  | nil => rfl
  | cons t texts ih =>
    obtain ⟨ht, htexts⟩ := List.forall_mem_cons.mp h
    simp only [List.map_cons, List.sum_cons, List.flatMap_cons, List.filterMap_append,
      List.length_append, ht.digits, ih htexts]
    omega

theorem sum_strays (h : ∀ t ∈ texts, t.Accounted) :
    (texts.map fun t => (Hex.strays t.content.toList).length).sum =
      ((texts.flatMap (·.warnings)).filterMap Warning.strippedCount?).sum := by
  induction texts with
  | nil => rfl
  | cons t texts ih =>
    obtain ⟨ht, htexts⟩ := List.forall_mem_cons.mp h
    simp only [List.map_cons, List.sum_cons, List.flatMap_cons, List.filterMap_append,
      List.sum_append, ht.strays, ih htexts]

end TextEntry

namespace Warning

theorem counts_of_origin? {w : Warning} (h : w.origin? = none) :
    w.droppedNibble? = none ∧ w.strippedCount? = none := by
  cases w with
  | strippedCharacters | truncatedNibble => cases h
  | danglingReference | unknownTokenKind | checksumRangeClamped | counterTooWide
  | recursiveContainer | containerTooDeep | zeroWidthCounter => exact ⟨rfl, rfl⟩

/-- What is read off the warnings about hex text can be read off all warnings. -/
theorem filterMap_filter_text {α : Type} {f : Warning → Option α}
    (hf : ∀ {w}, w.origin? = none → f w = none) (ws : List Warning) :
    (ws.filter (·.origin?.isSome)).filterMap f = ws.filterMap f := by
  rw [List.filterMap_filter]
  refine List.filterMap_congr fun w _ => ?_
  cases horigin : w.origin? with
  | none => exact (hf horigin).symm
  | some origin => rfl

end Warning

namespace Compiler

variable {c : Compiler} {tokens : TokenTable} {segments : List Segment} {store : CounterStore}
  {a b : Assembly} {leaf : Leaf} {leaves : List Leaf} {frame : Frame}

theorem text?_step (h : c.placeLeaf leaf a = .ok () b) :
    Step.text? ⟨leaf, a, b⟩ = leaf.text?.map fun (origin, content) => .read origin content := by
  cases leaf with
  | text origin content =>
    obtain ⟨edit, hedit, rfl, -⟩ := placeLeaf_eq_ok_iff.mp h
    rw [← Except.ok.inj hedit]
    simp [Step.text?, Leaf.text?, after, Edit.apply, Edit.on, payload, payload?, warnings,
      TextEntry.read]
  | timestamp | counter | checksum | unknown | dangling | recursive | tooDeep => rfl

theorem texts_trace (h : leaves.forM c.placeLeaf a = .ok () b) :
    (c.trace leaves a).filterMap Step.text? =
      (leaves.filterMap Leaf.text?).map fun (origin, content) => .read origin content := by
  induction leaves generalizing a with
  | nil => rfl
  | cons leaf rest ih =>
    obtain ⟨x, hplace, hrest⟩ := run_cons_eq_ok_iff.mp h
    have hstep := text?_step hplace
    simp only [trace, put_eq_ok_iff.mpr hplace]
    cases htext : leaf.text? with
    | none =>
      rw [htext] at hstep
      rw [List.filterMap_cons_none htext, List.filterMap_cons_none hstep, ih hrest]
    | some text =>
      rw [htext] at hstep
      rw [List.filterMap_cons_some htext, List.filterMap_cons_some hstep, ih hrest, List.map_cons]

theorem replay_trace (h : leaves.forM c.placeLeaf a = .ok () b) :
    Step.replay a (c.trace leaves a) = some b := by
  induction leaves generalizing a with
  | nil =>
    injection h with _ h
    exact congrArg some h
  | cons leaf rest ih =>
    obtain ⟨x, hplace, hrest⟩ := run_cons_eq_ok_iff.mp h
    simp only [trace, put_eq_ok_iff.mpr hplace, Step.replay]
    exact ih hrest

theorem text_warnings_leaf :
    (c.warnings a leaf).filter (·.origin?.isSome) = leaf.text?.toList.flatMap
      fun (origin, content) => (TextEntry.read origin content).warnings := by
  cases leaf with
  | text origin content =>
    have hall : ∀ w ∈ c.warnings a (.text origin content), w.origin?.isSome = true := by
      intro w hw
      rw [Hex.Reading.origin?_of_mem_warnings _ origin hw]
      rfl
    rw [List.filter_eq_self.mpr hall]
    exact (List.flatMap_singleton _ _).symm
  | counter id config =>
    rw [warnings]
    split
    · rfl
    · split <;> rfl
  | checksum id config =>
    rw [warnings]
    split
    · split <;> rfl
    · rfl
  | timestamp | unknown | dangling | recursive | tooDeep => rfl

theorem text_warnings_eq (h : c.compile segments tokens store = .ok frame) :
    frame.warnings.filter (·.origin?.isSome) =
      ((c.leaves tokens segments).filterMap Leaf.text?).flatMap
        fun (origin, content) => (TextEntry.read origin content).warnings := by
  obtain ⟨b, hrun, rfl⟩ := compile_eq_ok_iff.mp h
  refine run_invariant (P := fun done x => x.warnings.filter (·.origin?.isSome) =
    (done.filterMap Leaf.text?).flatMap
      fun (origin, content) => (TextEntry.read origin content).warnings) hrun rfl
    fun done leaf x edit _ hdone _ => ?_
  change (x.warnings ++ c.warnings x leaf).filter _ = _
  rw [List.filter_append, hdone, text_warnings_leaf, List.filterMap_append, List.flatMap_append]
  cases htext : leaf.text? with
  | none => rw [List.filterMap_cons_none htext]; rfl
  | some text => rw [List.filterMap_cons_some htext]; rfl

theorem steps_of_compile (h : c.compile segments tokens store = .ok frame) :
    (Step.replay { counters := store } (c.steps segments tokens store)).map c.finish = some frame ∧
    c.texts segments tokens store =
      ((c.leaves tokens segments).filterMap Leaf.text?).map
        fun (origin, content) => .read origin content := by
  obtain ⟨b, hrun, rfl⟩ := compile_eq_ok_iff.mp h
  refine ⟨?_, texts_trace hrun⟩
  rw [steps, replay_trace hrun]
  rfl

/-- In the steps that lead to a frame, the texts of the literals and flags among the leaves are met
in order. All of their digits are in the bytes that they appended, two to a byte, or were dropped
with a warning; all of their other characters but the blanks are counted in the warnings about
strays. Every warning about hex text is of one of the texts, which raises at most one of each kind,
under its own origin. So there is none if and only if each text can be read exactly, and then each
appended what that gives. -/
theorem characters_accounted (h : c.compile segments tokens store = .ok frame) :
    let texts := c.texts segments tokens store
    (Step.replay { counters := store } (c.steps segments tokens store)).map c.finish = some frame ∧
    texts.map (fun t => (t.origin, t.content)) =
      (c.leaves tokens segments).filterMap Leaf.text? ∧
    (texts.map fun t => (Hex.digits t.content.toList).length).sum =
      2 * (texts.map fun t => t.bytes.length).sum +
        (frame.warnings.filterMap Warning.droppedNibble?).length ∧
    (texts.map fun t => (Hex.strays t.content.toList).length).sum =
      (frame.warnings.filterMap Warning.strippedCount?).sum ∧
    frame.warnings.filter (·.origin?.isSome) = texts.flatMap (·.warnings) ∧
    (∀ t ∈ texts, (t.warnings.filterMap Warning.strippedCount?).length ≤ 1 ∧
      (t.warnings.filterMap Warning.droppedNibble?).length ≤ 1 ∧
      ∀ w ∈ t.warnings, w.origin? = some t.origin) ∧
    ((∀ w ∈ frame.warnings, w.origin? = none) ↔
      ∀ t ∈ texts, ∃ bytes, Hex.readExact t.content = .ok bytes) ∧
    ((∀ w ∈ frame.warnings, w.origin? = none) →
      ∀ t ∈ texts, Hex.readExact t.content = .ok t.bytes) := by
  intro texts
  obtain ⟨hframe, htexts⟩ := steps_of_compile h
  change texts = _ at htexts
  have haccounted : ∀ t ∈ texts, t.Accounted := by
    intro t ht
    rw [htexts] at ht
    obtain ⟨text, -, rfl⟩ := List.mem_map.mp ht
    exact TextEntry.accounted_read _ _
  have hwarnings : frame.warnings.filter (·.origin?.isSome) = texts.flatMap (·.warnings) := by
    rw [text_warnings_eq h, htexts, List.flatMap_map]
  have hclean : (∀ w ∈ frame.warnings, w.origin? = none) ↔ ∀ t ∈ texts, t.warnings = [] := by
    rw [← List.flatMap_eq_nil_iff, ← hwarnings, List.filter_eq_nil_iff]
    simp
  refine ⟨hframe, ?_, ?_, ?_, hwarnings,
    fun t ht => ⟨(haccounted t ht).stripped_le, (haccounted t ht).dropped_le,
      (haccounted t ht).origin⟩, ?_, fun hnone t ht => ?_⟩
  · rw [htexts, List.map_map]
    exact List.map_id _
  · rw [TextEntry.sum_digits haccounted, ← hwarnings,
      Warning.filterMap_filter_text fun hw => (Warning.counts_of_origin? hw).1]
  · rw [TextEntry.sum_strays haccounted, ← hwarnings,
      Warning.filterMap_filter_text fun hw => (Warning.counts_of_origin? hw).2]
  · rw [hclean]
    constructor
    · exact fun hnone t ht => ⟨t.bytes, ((haccounted t ht).exact_iff _).mpr ⟨hnone t ht, rfl⟩⟩
    · intro hexact t ht
      obtain ⟨bytes, hbytes⟩ := hexact t ht
      exact (((haccounted t ht).exact_iff bytes).mp hbytes).1
  · exact ((haccounted t ht).exact_iff _).mpr ⟨hclean.mp hnone t ht, rfl⟩

open Sample in
/-- A container with a flag that loses two characters is met twice, on both sides of a literal that
loses one. -/
theorem characters_accounted_nested :
    let tokens := TokenTable.ofTokens [token "mark" (.flag "7E-5"),
      token "box" (.container (.ofSegments [reference "b1" "mark", literal "b2" "A b"]))]
    let segments := [reference "s1" "box", literal "s2" "0x1", reference "s3" "box"]
    let texts := Compiler.texts {} segments tokens .empty
    ∃ frame, Compiler.compile {} segments tokens .empty = .ok frame ∧
      texts.map (·.content) = ["7E-5", "A b", "0x1", "7E-5", "A b"] ∧
      texts.map (·.bytes) = [[0x7E], [0xAB], [0x01], [0x7E], [0xAB]] ∧
      (texts.map fun t => (Hex.digits t.content.toList).length).sum = 2 * 5 + 2 ∧
      (texts.map fun t => (Hex.strays t.content.toList).length).sum = 1 + 1 + 1 ∧
      ¬ ∀ t ∈ texts, ∃ bytes, Hex.readExact t.content = .ok bytes := by
  intro tokens segments texts
  let mark : List Warning :=
    [.strippedCharacters (.flag ⟨"mark"⟩) 1, .truncatedNibble (.flag ⟨"mark"⟩) '5']
  let frame : Frame :=
    { sent := [0x7E, 0xAB, 0x01, 0x7E, 0xAB]
      raw := [0x7E, 0xAB, 0x01, 0x7E, 0xAB]
      checksums := []
      warnings := mark ++ [.strippedCharacters (.literal ⟨"s2"⟩) 1] ++ mark
      counters := .empty }
  have hframe : Compiler.compile {} segments tokens .empty = .ok frame := by decide +kernel
  have hcontents : texts.map (·.content) = ["7E-5", "A b", "0x1", "7E-5", "A b"] := by
    decide +kernel
  have hbytes : texts.map (·.bytes) = [[0x7E], [0xAB], [0x01], [0x7E], [0xAB]] := by decide +kernel
  obtain ⟨-, -, hdigits, hstrays, -, -, hexact, -⟩ := characters_accounted hframe
  have hlengths : (texts.map fun t => t.bytes.length).sum = 5 := by
    have hmap := congrArg (fun all => (all.map List.length).sum) hbytes
    simpa [List.map_map, Function.comp_def] using hmap
  change _ = 2 * (texts.map fun t => t.bytes.length).sum + _ at hdigits
  rw [hlengths] at hdigits
  refine ⟨frame, hframe, hcontents, hbytes, hdigits, hstrays, fun hall => ?_⟩
  have hnone := hexact.mpr hall (.strippedCharacters (.literal ⟨"s2"⟩) 1) (by decide +kernel)
  cases hnone

end Compiler

end SerialFrame
