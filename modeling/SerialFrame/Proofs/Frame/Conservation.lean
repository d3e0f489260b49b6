import SerialFrame.Proofs.Checksum.Splice
import SerialFrame.Proofs.Frame.Run
import SerialFrame.Sample.Projects

/-!
# No byte of the payload is lost

A finished frame is the outcome of a list of edits, one for each leaf that contributes bytes and
one for each checksum. `Compiler.script` reads this list off the leaves, the counters at the start
and the records of the checksums, and `compile_conserves_payload` says that making these edits gives
the frame. Every byte is put in by one edit: without those that stem from checksums, the frame is
the payload in the order of the leaves.
-/

namespace SerialFrame

namespace Edit

variable {α β : Type} {edits : List Edit} {p : Placement}

def replayWith (new : Edit → List α) (edits : List Edit) : List α :=
  edits.foldl (fun items e => e.on (new e) items) []

def replay (edits : List Edit) : Bytes :=
  replayWith bytes edits

/-- What a byte of a frame stems from. -/
inductive Source
  | payload
  | checksum
  deriving DecidableEq, Repr

def marked : Edit → List (Source × UInt8)
  | .append bytes => bytes.map (Source.payload, ·)
  | .insert p => p.value.map (Source.checksum, ·)

def sources (edits : List Edit) : List (Source × UInt8) :=
  replayWith marked edits

/-- Each checksum is inserted between bytes that are there or at their end. -/
def InBounds (edits : List Edit) : Prop :=
  ∀ done p rest, edits = done ++ .insert p :: rest → p.offset ≤ (replay done).length

theorem replayWith_concat (new : Edit → List α) (edits : List Edit) (e : Edit) :
    replayWith new (edits ++ [e]) = e.on (new e) (replayWith new edits) := by
  simp [replayWith, List.foldl_append]

theorem map_on (f : α → β) (e : Edit) (new items : List α) :
    (e.on new items).map f = e.on (new.map f) (items.map f) := by
  cases e <;> simp [on, List.map_take, List.map_drop]

theorem map_replayWith (f : α → β) (new : Edit → List α) (edits : List Edit) :
    (replayWith new edits).map f = replayWith (fun e => (new e).map f) edits := by
  induction edits using List.reverseRecOn with
  | nil => rfl
  | append_singleton edits e ih => rw [replayWith_concat, replayWith_concat, map_on, ih]

theorem map_sources (edits : List Edit) : (sources edits).map (·.2) = replay edits := by
  have hbytes : (fun e => (marked e).map (·.2)) = bytes := by
    funext e
    cases e <;> simp [marked, bytes]
  rw [sources, map_replayWith, hbytes]
  rfl

/-- Insertions leave the bytes of the payload in order, wherever they are made. -/
theorem filter_sources (edits : List Edit) :
    ((sources edits).filter (·.1 = .payload)).map (·.2) = edits.flatMap appended := by
  induction edits using List.reverseRecOn with
  | nil => rfl
  | append_singleton edits e ih =>
    rw [List.flatMap_append, ← ih, sources, replayWith_concat]
    cases e with
    | append bytes => simp [on, marked, appended, List.filter_map, Function.comp_def, sources]
    | insert p =>
      have hnone : (p.value.map (Source.checksum, ·)).filter (·.1 = .payload) = [] := by
        simp [List.filter_map, Function.comp_def]
      simp only [on, marked, appended, List.filter_append, hnone, List.append_nil, sources,
        List.flatMap_cons, List.flatMap_nil]
      rw [← List.filter_append, List.take_append_drop]

theorem length_on (e : Edit) (new items : List α) :
    (e.on new items).length = items.length + new.length := by
  cases e with
  | append bytes => simp [on]
  | insert p =>
    simp [on]
    omega

theorem length_replay (edits : List Edit) :
    (replay edits).length =
      (edits.flatMap appended).length +
        ((edits.filterMap placement?).map fun p => p.value.length).sum := by
  induction edits using List.reverseRecOn with
  | nil => rfl
  | append_singleton edits e ih =>
    rw [replay, replayWith_concat, length_on]
    change (replay edits).length + _ = _
    rw [ih]
    cases e with
    | append new =>
      simp [List.filterMap_cons]
      omega
    | insert p =>
      simp
      omega

theorem InBounds.nil : InBounds [] := fun done p rest h => absurd h.symm (by simp)

theorem InBounds.append (h : InBounds edits) (bytes : Bytes) : InBounds (edits ++ [.append bytes]) := by
  intro done p rest heq
  rcases split_concat heq with ⟨-, hlast, -⟩ | ⟨init, -, hedits⟩
  · cases hlast
  · exact h done p init hedits

theorem InBounds.insert (h : InBounds edits) (hp : p.offset ≤ (replay edits).length) :
    InBounds (edits ++ [.insert p]) := by
  intro done p' rest heq
  rcases split_concat heq with ⟨rfl, hlast, -⟩ | ⟨init, -, hedits⟩
  · cases hlast
    exact hp
  · exact h done p' init hedits

end Edit

namespace Compiler

variable {c : Compiler} {tokens : TokenTable}

def payloads (c : Compiler) : List Leaf → CounterStore → List Bytes
  | [], _ => []
  | leaf :: rest, store => (c.payload? store leaf).toList ++ c.payloads rest (c.advance store leaf)

def script (c : Compiler) : List Leaf → CounterStore → List Placement → List Edit
  | [], _, _ => []
  | leaf :: rest, store, records =>
    if leaf.checksum?.isSome then
      (records.head?.map Edit.insert).toList ++ c.script rest store records.tail
    else
      ((c.payload? store leaf).map Edit.append).toList ++
        c.script rest (c.advance store leaf) records

theorem payload?_of_checksum? {leaf : Leaf} (h : leaf.checksum?.isSome) (store : CounterStore) :
    c.payload? store leaf = none ∧ c.advance store leaf = store := by
  cases leaf <;> simp_all [Leaf.checksum?, payload?, advance]

theorem script_append {xs ys : List Leaf} {store : CounterStore} {ps qs : List Placement}
    (h : (xs.filterMap Leaf.checksum?).length = ps.length) :
    c.script (xs ++ ys) store (ps ++ qs) =
      c.script xs store ps ++ c.script ys (xs.foldl c.advance store) qs := by
  induction xs generalizing store ps with
  | nil =>
    obtain rfl := List.eq_nil_of_length_eq_zero h.symm
    rfl
  | cons leaf xs ih =>
    by_cases hleaf : leaf.checksum?.isSome = true
    · obtain ⟨config, hconfig⟩ := Option.isSome_iff_exists.mp hleaf
      cases ps with
      | nil => simp [hconfig] at h
      | cons p ps =>
        have hrest : (xs.filterMap Leaf.checksum?).length = ps.length := by
          simpa [hconfig] using h
        have hstore := (payload?_of_checksum? (c := c) hleaf store).2
        simp [script, hleaf, hstore, ih hrest]
    · have hnone : leaf.checksum? = none := by simpa using hleaf
      have hrest : (xs.filterMap Leaf.checksum?).length = ps.length := by
        simpa [hnone] using h
      simp [script, hleaf, ih hrest]

theorem flatMap_appended_script (leaves : List Leaf) (store : CounterStore)
    (records : List Placement) :
    (c.script leaves store records).flatMap Edit.appended = (c.payloads leaves store).flatten := by
  induction leaves generalizing store records with
  | nil => rfl
  | cons leaf rest ih =>
    by_cases hleaf : leaf.checksum?.isSome = true
    · obtain ⟨hnone, hstore⟩ := payload?_of_checksum? (c := c) hleaf store
      cases records <;> simp [script, payloads, hleaf, hnone, hstore, ih, Edit.appended]
    · cases h : c.payload? store leaf <;> simp [script, payloads, hleaf, h, ih, Edit.appended]

/-- The assembly is what the script for the leaves placed so far makes. -/
structure Scripted (c : Compiler) (store : CounterStore) (done : List Leaf) (a : Assembly) :
    Prop where
  tokens : a.checksums.map (·.token) = (done.filterMap Leaf.checksum?).map (·.1)
  counters : a.counters = done.foldl c.advance store
  records : (c.script done store a.checksums).filterMap Edit.placement? = a.checksums
  bounds : Edit.InBounds (c.script done store a.checksums)
  buffer : Edit.replay (c.script done store a.checksums) = a.buffer

theorem Scripted.length {store : CounterStore} {done : List Leaf} {a : Assembly}
    (h : c.Scripted store done a) :
    (done.filterMap Leaf.checksum?).length = a.checksums.length := by
  simpa using (congrArg List.length h.tokens).symm

theorem Scripted.append {store : CounterStore} {done : List Leaf} {a : Assembly} {leaf : Leaf}
    (h : c.Scripted store done a) (hleaf : leaf.checksum? = none) :
    c.Scripted store (done ++ [leaf]) (c.after a leaf (.append (c.payload a.counters leaf))) := by
  have hsame : (c.after a leaf (.append (c.payload a.counters leaf))).checksums = a.checksums :=
    List.append_nil _
  have hscript : c.script (done ++ [leaf]) store a.checksums =
      c.script done store a.checksums ++ ((c.payload? a.counters leaf).map Edit.append).toList := by
    have happend : c.script (done ++ [leaf]) store (a.checksums ++ []) = _ :=
      script_append h.length
    rw [List.append_nil, ← h.counters] at happend
    rw [happend]
    simp [script, hleaf]
  refine ⟨?_, by simp [after, h.counters], ?_, ?_, ?_⟩ <;> rw [hsame]
  · simp [h.tokens, hleaf]
  all_goals rw [hscript]
  · cases c.payload? a.counters leaf <;> simp [h.records, Edit.placement?]
  · cases c.payload? a.counters leaf with
    | none => simpa using h.bounds
    | some bytes => exact h.bounds.append bytes
  · show _ = a.buffer ++ c.payload a.counters leaf
    rw [payload, ← h.buffer]
    cases c.payload? a.counters leaf with
    | none => simp
    | some bytes => exact Edit.replayWith_concat _ _ _

theorem Scripted.insert {store : CounterStore} {done : List Leaf} {a : Assembly} {id : TokenId}
    {config : ChecksumConfig} {splice : Checksum.Splice} (h : c.Scripted store done a)
    (hsplice : Checksum.Splice.of? config a.buffer = some splice) :
    c.Scripted store (done ++ [.checksum id config])
      (c.after a (.checksum id config) (.insert (splice.placement id))) := by
  have hchecksums : (c.after a (.checksum id config) (.insert (splice.placement id))).checksums =
      a.checksums ++ [splice.placement id] := rfl
  have hscript : c.script (done ++ [.checksum id config]) store
      (a.checksums ++ [splice.placement id]) =
        c.script done store a.checksums ++ [.insert (splice.placement id)] := by
    rw [script_append h.length]
    simp [script, Leaf.checksum?]
  refine ⟨?_, by simp [after, h.counters], ?_, ?_, ?_⟩ <;> rw [hchecksums]
  · simp [h.tokens, Leaf.checksum?, Checksum.Splice.placement]
  all_goals rw [hscript]
  · simp [h.records, Edit.placement?]
  · refine h.bounds.insert ?_
    rw [h.buffer]
    exact (Checksum.Splice.of?_eq_some hsplice).2.2.1
  · change _ = Edit.apply (.insert (splice.placement id)) a.buffer
    rw [Edit.replay, Edit.replayWith_concat, ← h.buffer]
    rfl

theorem run_scripted {leaves : List Leaf} {store : CounterStore} {b : Assembly}
    (hrun : leaves.forM c.placeLeaf { counters := store } = .ok () b) :
    c.Scripted store leaves b := by
  refine run_invariant hrun ⟨rfl, rfl, rfl, .nil, rfl⟩ fun done leaf a edit _ h hedit => ?_
  rcases edit_cases hedit with ⟨hleaf, rfl⟩ | ⟨id, config, splice, rfl, hsplice, rfl⟩
  · exact h.append hleaf
  · exact h.insert hsplice

/-- A finished frame is what the edits of its leaves make of nothing: contributions are appended
whole and in order, and each record in turn is inserted within what is there. So the frame without
the bytes that stem from checksums is the payload, and no byte is counted twice. -/
theorem compile_conserves_payload {segments : List Segment} {store : CounterStore} {frame : Frame}
    (h : c.compile segments tokens store = .ok frame) :
    let leaves := c.leaves tokens segments
    let edits := c.script leaves store frame.checksums
    frame.checksums.map (·.token) = (leaves.filterMap Leaf.checksum?).map (·.1) ∧
    edits.filterMap Edit.placement? = frame.checksums ∧
    Edit.InBounds edits ∧
    Edit.replay edits = frame.raw ∧
    (Edit.sources edits).map (·.2) = frame.raw ∧
    ((Edit.sources edits).filter (·.1 = .payload)).map (·.2) =
      (c.payloads leaves store).flatten ∧
    frame.raw.length =
      ((c.payloads leaves store).map List.length).sum +
        (frame.checksums.map fun p => p.value.length).sum := by
  intro leaves edits
  obtain ⟨b, hrun, rfl⟩ := compile_eq_ok_iff.mp h
  have hscripted := run_scripted hrun
  have hpayload : edits.flatMap Edit.appended = (c.payloads leaves store).flatten :=
    flatMap_appended_script _ _ _
  have hraw : Edit.replay edits = (c.finish b).raw := hscripted.buffer
  have hrecords : edits.filterMap Edit.placement? = (c.finish b).checksums := hscripted.records
  refine ⟨hscripted.tokens, hrecords, hscripted.bounds, hraw, ?_, ?_, ?_⟩
  · rw [Edit.map_sources, hraw]
  · rw [Edit.filter_sources, hpayload]
  · rw [← hraw, Edit.length_replay, hpayload, hrecords, List.length_flatten]

open Sample in
/-- The second checksum is inserted between the two bytes of the first. -/
theorem compile_conserves_payload_split :
    let p := project
      [reference "s1" "body", reference "s2" "crc", reference "s3" "seq", reference "s4" "mid"]
      [token "body" (.container (.ofSegments [literal "c1" "01 02"])),
        token "crc" (.checksum { wholeFrame .crc16Modbus with byteOrder := some .big }),
        token "seq" (.counter { bytes := 1, currentValue := some "7F" }),
        token "mid" (.checksum { wholeFrame .crc16Ccitt with startIndex := 3, endIndex := -2 })]
    let crc : Placement := ⟨⟨"crc"⟩, .crc16Modbus, 0, 2, [0xE1, 0x81]⟩
    let mid : Placement := ⟨⟨"mid"⟩, .crc16Ccitt, 3, 3, [0xFF, 0xFF]⟩
    let c : Compiler := {}
    let edits : List Edit := [.append [0x01, 0x02], .insert crc, .append [0x7F], .insert mid]
    ∃ frame, p.compile c .empty = .ok frame ∧
      c.script (c.leaves p.tokens p.template.segments) .empty frame.checksums = edits ∧
      frame.raw = [0x01, 0x02, 0xE1, 0xFF, 0xFF, 0x81, 0x7F] ∧ Edit.replay edits = frame.raw ∧
      ((Edit.sources edits).filter (·.1 = .payload)).map (·.2) = [0x01, 0x02, 0x7F] := by
  intro p crc mid c edits
  let raw : Bytes := [0x01, 0x02, 0xE1, 0xFF, 0xFF, 0x81, 0x7F]
  let frame : Frame :=
    { sent := raw
      raw := raw
      checksums := [crc, mid]
      warnings := []
      counters := CounterStore.empty.set ⟨"seq"⟩ [0x80] }
  have h : p.compile c .empty = .ok frame := by decide +kernel
  have hscript : c.script (c.leaves p.tokens p.template.segments) .empty frame.checksums = edits := by
    decide +kernel
  have hpayload : (c.payloads (c.leaves p.tokens p.template.segments) .empty).flatten =
      [0x01, 0x02, 0x7F] := by decide +kernel
  obtain ⟨-, -, -, hreplay, -, herased, -⟩ := compile_conserves_payload h
  rw [hscript] at hreplay herased
  exact ⟨frame, h, hscript, rfl, hreplay, herased.trans hpayload⟩

end Compiler

end SerialFrame
