import SerialFrame.Proofs.Frame.Accounting
import SerialFrame.Proofs.Frame.Alike
import SerialFrame.Proofs.Frame.Strictness
import SerialFrame.Sample.Projects

/-!
# Joining literals

A run of literals may be joined to one if the digits of each literal come in pairs: then no digit
gets another partner. What is joined puts the same bytes into the frame and may only distribute the
warnings about hex text differently (`Assembly.SameButText`). `normalize_keeps_frame` says this of
whole compiles; where warnings are refused, nothing is left to differ.
-/

namespace SerialFrame

/-- If both are literals then the digits of the first come in pairs, so that none of them is left to
meet a digit of the second. -/
def Segment.KeepsPairs (a b : Segment) : Prop :=
  ∀ content ∈ a.literal?, b.isLiteral → (Hex.digits content.toList).length % 2 = 0

instance (a b : Segment) : Decidable (a.KeepsPairs b) :=
  inferInstanceAs (Decidable (∀ content ∈ a.literal?, b.isLiteral → _))

/-- Two frames half done are the same but for the warnings about hex text, and either both have
warnings or none of them. -/
structure Assembly.SameButText (a b : Assembly) : Prop where
  buffer : b.buffer = a.buffer
  checksums : b.checksums = a.checksums
  counters : b.counters = a.counters
  others : b.warnings.filter (·.origin?.isNone) = a.warnings.filter (·.origin?.isNone)
  clean : b.warnings = [] ↔ a.warnings = []

structure Frame.SameButText (a b : Frame) : Prop where
  sent : b.sent = a.sent
  raw : b.raw = a.raw
  checksums : b.checksums = a.checksums
  counters : b.counters = a.counters
  others : b.warnings.filter (·.origin?.isNone) = a.warnings.filter (·.origin?.isNone)
  clean : b.warnings = [] ↔ a.warnings = []

theorem Frame.SameButText.eq_of_clean {a b : Frame} (h : a.SameButText b)
    (hclean : a.warnings = []) : b = a := by
  have hwarnings : b.warnings = a.warnings := by rw [hclean, h.clean.mpr hclean]
  obtain ⟨hsent, hraw, hchecksums, hcounters, -, -⟩ := h
  cases a
  cases b
  simp only [Frame.mk.injEq] at *
  exact ⟨hsent, hraw, hchecksums, hwarnings, hcounters⟩

theorem Alike.eq_ok_iff_of_clean {ε : Type} {x y : Except ε Frame}
    (h : Alike Frame.SameButText x y) {frame : Frame} (hclean : frame.warnings = []) :
    y = .ok frame ↔ x = .ok frame := by
  cases h with
  | error e => simp
  | ok h =>
    constructor
    · rintro ⟨⟩
      rw [h.eq_of_clean (h.clean.mp hclean)]
    · rintro ⟨⟩
      rw [h.eq_of_clean hclean]

namespace Assembly.SameButText

variable {a b x : Assembly}

theorem refl (a : Assembly) : a.SameButText a :=
  ⟨rfl, rfl, rfl, rfl, .rfl⟩

theorem trans (hab : a.SameButText b) (hbx : b.SameButText x) : a.SameButText x :=
  ⟨hbx.buffer.trans hab.buffer, hbx.checksums.trans hab.checksums, hbx.counters.trans hab.counters,
    hbx.others.trans hab.others, hbx.clean.trans hab.clean⟩

end Assembly.SameButText

theorem Hex.Reading.filter_warnings (r : Reading) (origin : Origin) :
    (r.warnings origin).filter (·.origin?.isNone) = [] := by
  refine List.filter_eq_nil_iff.mpr fun w hw => ?_
  rw [r.origin?_of_mem_warnings origin hw]
  exact Bool.false_ne_true

namespace Compiler

variable {c : Compiler} {tokens : TokenTable} {segments : List Segment} {a b : Assembly}

theorem alike_put_sameButText (h : a.SameButText b) (leaf : Leaf) :
    Alike Assembly.SameButText (c.put a leaf) (c.put b leaf) := by
  have hwarnings := warnings_congr (c := c) h.buffer leaf
  refine alike_put (edit_congr h.buffer fun _ _ _ => by rw [h.counters]) hwarnings fun edit _ => ?_
  constructor
  · simp only [after, h.buffer]
  · simp only [after, h.checksums]
  · simp only [after, h.counters]
  · simp only [after, List.filter_append, hwarnings, h.others]
  · simp only [after, List.append_eq_nil_iff, hwarnings, h.clean]

theorem alike_foldlM_sameButText (h : a.SameButText b) (leaves : List Leaf) :
    Alike Assembly.SameButText (leaves.foldlM c.put a) (leaves.foldlM c.put b) :=
  Alike.foldlM (fun leaf _ _ _ hxy => alike_put_sameButText hxy leaf) h

theorem put_text (hlenient : c.options.strict = false) (a : Assembly) (origin : Origin)
    (content : String) :
    c.put a (.text origin content) = .ok { a with
      buffer := a.buffer ++ (Hex.readLenient content).bytes
      warnings := a.warnings ++ (Hex.readLenient content).warnings origin } := by
  rw [put_lenient hlenient]
  exact effect_append rfl

/-- Two texts do what the joined one does under the origin of the first, if the digits of the first
come in pairs. -/
theorem alike_put_joined (hlenient : c.options.strict = false) {first : String}
    (heven : (Hex.digits first.toList).length % 2 = 0) (second : String) (origin origin' : Origin)
    (a : Assembly) :
    Alike Assembly.SameButText
      ([.text origin first, .text origin' second].foldlM c.put a)
      (c.put a (.text origin (first ++ second))) := by
  have hjoined := Hex.readLenient_append heven second
  have hnone : (Hex.readLenient first).droppedNibble = none := by
    rw [Hex.readLenient_eq]
    exact Hex.unpaired_eq_none_iff.mpr heven
  rw [List.foldlM_cons, put_text hlenient, put_text hlenient]
  change Alike _ ([.text origin' second].foldlM c.put _) _
  rw [List.foldlM_cons, put_text hlenient]
  refine .ok ⟨?_, rfl, rfl, ?_, ?_⟩
  · simp only [hjoined, List.append_assoc]
  · simp only [List.filter_append, Hex.Reading.filter_warnings, List.append_nil]
  · simp only [List.append_eq_nil_iff, Hex.Reading.warnings_eq_nil_iff, hjoined, hnone,
      Nat.add_eq_zero_iff]
    tauto

theorem leaves_literal {segment : Segment} {content : String}
    (h : segment.kind = .literal content) (rest : List Segment) :
    c.leaves tokens (segment :: rest) =
      .text (.literal segment.id) content :: c.leaves tokens rest := by
  change Leaf.under _ _ _ _ = _ :: Leaf.under _ _ _ _
  rw [Leaf.under_eq, Leaf.under_eq, List.flatMap_cons, Leaf.ofSegment, h]
  rfl

theorem alike_joinFront (hlenient : c.options.strict = false) {s : Segment}
    (h : ∀ next ∈ segments.head?, s.KeepsPairs next) (a : Assembly) :
    Alike Assembly.SameButText ((c.leaves tokens (s :: segments)).foldlM c.put a)
      ((c.leaves tokens (joinFront s segments)).foldlM c.put a) := by
  cases segments with
  | nil => exact alike_foldlM_sameButText (.refl a) _
  | cons next rest =>
    rw [joinFront]
    cases hjoin : s.join? next with
    | none => exact alike_foldlM_sameButText (.refl a) _
    | some joined =>
      obtain ⟨first, second, hfirst, hsecond, rfl⟩ := Segment.join?_eq_some_iff.mp hjoin
      have heven : (Hex.digits first.toList).length % 2 = 0 := by
        refine h next rfl first ?_ ?_
        · rw [Segment.literal?, hfirst]
          rfl
        · rw [Segment.isLiteral, Segment.literal?, hsecond]
          rfl
      rw [leaves_literal hfirst, leaves_literal hsecond, leaves_literal rfl]
      have htexts := alike_put_joined hlenient heven second (.literal s.id) (.literal next.id) a
      have hboth := htexts.bind fun x y hxy => alike_foldlM_sameButText (c := c) hxy
        (c.leaves tokens rest)
      rw [← List.foldlM_append] at hboth
      exact hboth

theorem alike_normalize (hlenient : c.options.strict = false)
    (h : segments.IsChain Segment.KeepsPairs) (hab : a.SameButText b) :
    Alike Assembly.SameButText ((c.leaves tokens segments).foldlM c.put a)
      ((c.leaves tokens (normalize segments)).foldlM c.put b) := by
  induction segments generalizing a b with
  | nil => exact .ok hab
  | cons s rest ih =>
    -- `KeepsPairs` only asks whether the next one is a literal, and joining keeps that.
    have hhead : ∀ next ∈ (normalize rest).head?, s.KeepsPairs next := by
      cases rest with
      | nil => exact fun next hnext => by cases hnext
      | cons r rest =>
        obtain ⟨r', rest', heq, hkind⟩ := joinFront_eq_cons r (normalize rest)
        change ∀ next ∈ (joinFront r (normalize rest)).head?, s.KeepsPairs next
        rw [heq]
        rintro next ⟨⟩ content hcontent hliteral
        exact (List.isChain_cons_cons.mp h).1 content hcontent (hkind ▸ hliteral)
    have hrest : Alike Assembly.SameButText ((c.leaves tokens (s :: rest)).foldlM c.put a)
        ((c.leaves tokens (s :: normalize rest)).foldlM c.put b) := by
      rw [← List.singleton_append, leaves_append, ← List.singleton_append (l := normalize rest),
        leaves_append, List.foldlM_append, List.foldlM_append]
      exact (alike_foldlM_sameButText hab _).bind fun x y hxy => ih h.tail hxy
    exact Alike.trans (fun hxy hyz => hxy.trans hyz) hrest (alike_joinFront hlenient hhead b)

theorem alike_compile_normalize (hlenient : c.options.strict = false)
    (h : segments.IsChain Segment.KeepsPairs) (store : CounterStore) :
    Alike Frame.SameButText (c.compile segments tokens store)
      (c.compile (normalize segments) tokens store) := by
  rw [compile_eq_foldlM, compile_eq_foldlM]
  refine (alike_normalize hlenient h (.refl _)).map fun a b hab => ?_
  exact ⟨by simp only [finish, hab.buffer], hab.buffer, hab.checksums, hab.counters, hab.others,
    hab.clean⟩

/-- If the digits of every literal that stands right in front of a literal come in pairs, then the
runs of literals may be joined. When warnings do not count, both compiles fail with the same error
or make frames that differ at most in the warnings about hex text. Strict compiles make the same
frame or both make none. -/
theorem normalize_keeps_frame (c : Compiler) (h : segments.IsChain Segment.KeepsPairs)
    (tokens : TokenTable) (store : CounterStore) :
    (c.options.strict = false →
      Alike Frame.SameButText (c.compile segments tokens store)
        (c.compile (normalize segments) tokens store)) ∧
    (c.options.strict = true → ∀ frame,
      c.compile (normalize segments) tokens store = .ok frame ↔
        c.compile segments tokens store = .ok frame) := by
  refine ⟨fun hlenient => alike_compile_normalize hlenient h store, fun hstrict frame => ?_⟩
  rw [← withStrict_self hstrict, compile_strict_eq_ok_iff, compile_strict_eq_ok_iff]
  refine and_congr_left fun hclean => ?_
  have hlenient : (c.withStrict false).options.strict = false := rfl
  exact (alike_compile_normalize hlenient h store).eq_ok_iff_of_clean hclean

open Sample in
/-- The strays of two literals are counted together and the lone digits are dropped under the ids of
the first literals, while the checksum and the warning about its range stay as they are. A strict
compile makes the same frame of literals that warn of nothing. -/
theorem normalize_keeps_frame_strays :
    let tokens := TokenTable.ofTokens
      [token "crc" (.checksum { wholeFrame .crc16Modbus with startIndex := 9 })]
    let segments := [literal "s1" "0x1", literal "s2" "A-B C", reference "s3" "crc",
      literal "s4" "78", literal "s5" "9"]
    let clamped := Warning.checksumRangeClamped ⟨"crc"⟩ 9 0 2
    let plain := [literal "s1" "0 1", literal "s2" "0A"]
    let lenient := Compiler.withStrict {} false
    let strict := Compiler.withStrict {} true
    ∃ frame joined other,
      lenient.compile segments tokens .empty = .ok frame ∧
      lenient.compile (normalize segments) tokens .empty = .ok joined ∧
      frame.warnings = [.strippedCharacters (.literal ⟨"s1"⟩) 1,
        .strippedCharacters (.literal ⟨"s2"⟩) 1, .truncatedNibble (.literal ⟨"s2"⟩) 'C', clamped,
        .truncatedNibble (.literal ⟨"s5"⟩) '9'] ∧
      joined.warnings = [.strippedCharacters (.literal ⟨"s1"⟩) 2,
        .truncatedNibble (.literal ⟨"s1"⟩) 'C', clamped, .truncatedNibble (.literal ⟨"s4"⟩) '9'] ∧
      frame.SameButText joined ∧
      strict.compile plain tokens .empty = .ok other ∧
      strict.compile (normalize plain) tokens .empty = .ok other := by
  intro tokens segments clamped plain lenient strict
  let frame : Frame :=
    { sent := [0x01, 0xAB, 0xFF, 0xFF, 0x78]
      raw := [0x01, 0xAB, 0xFF, 0xFF, 0x78]
      checksums := [⟨⟨"crc"⟩, .crc16Modbus, 2, 2, [0xFF, 0xFF]⟩]
      warnings := [.strippedCharacters (.literal ⟨"s1"⟩) 1,
        .strippedCharacters (.literal ⟨"s2"⟩) 1, .truncatedNibble (.literal ⟨"s2"⟩) 'C', clamped,
        .truncatedNibble (.literal ⟨"s5"⟩) '9']
      counters := .empty }
  let joined : Frame :=
    { frame with warnings := [.strippedCharacters (.literal ⟨"s1"⟩) 2,
        .truncatedNibble (.literal ⟨"s1"⟩) 'C', clamped, .truncatedNibble (.literal ⟨"s4"⟩) '9'] }
  let other : Frame :=
    { sent := [0x01, 0x0A]
      raw := [0x01, 0x0A]
      checksums := []
      warnings := []
      counters := .empty }
  have hframe : lenient.compile segments tokens .empty = .ok frame := by decide +kernel
  have hjoined : lenient.compile (normalize segments) tokens .empty = .ok joined := by
    decide +kernel
  have hother : strict.compile plain tokens .empty = .ok other := by decide +kernel
  have hpairs : segments.IsChain Segment.KeepsPairs := by decide +kernel
  have hpairs' : plain.IsChain Segment.KeepsPairs := by decide +kernel
  have hsame := (normalize_keeps_frame lenient hpairs tokens .empty).1 rfl
  rw [hframe, hjoined] at hsame
  exact ⟨frame, joined, other, hframe, hjoined, rfl, rfl, hsame.of_ok, hother,
    ((normalize_keeps_frame strict hpairs' tokens .empty).2 rfl other).mpr hother⟩

end Compiler

end SerialFrame
