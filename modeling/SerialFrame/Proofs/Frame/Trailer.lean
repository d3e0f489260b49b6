import SerialFrame.Proofs.Checksum.Residue
import SerialFrame.Proofs.Checksum.Splice
import SerialFrame.Proofs.Frame.Alike
import SerialFrame.Sample.Projects

/-!
# A checksum at the end

A checksum over all that is in a frame, as its last segment, goes behind what the segments in front
of it come to (`compile_concat_checksum`). A receiver that makes the checksum of the whole frame
then gets the same number whatever the frame is: `frames_check_themselves`.
-/

namespace SerialFrame

namespace Compiler

variable {c : Compiler} {tokens : TokenTable} {store : CounterStore} {key : TokenId} {t : Token}
  {config : ChecksumConfig}

theorem leaves_checksum (hget : tokens.get? key = some t) (hkind : t.kind = .checksum config)
    (id : SegmentId) : c.leaves tokens [.token id key] = [.checksum t.id config] := by
  change Leaf.under _ _ _ _ = _
  rw [Leaf.under_eq, List.flatMap_singleton]
  simp only [Leaf.ofSegment, Segment.token, hget, Leaf.ofToken, hkind]

theorem put_whole {algorithm : Checksum.Algorithm}
    (hname : Checksum.Algorithm.ofName? config.algorithm = some algorithm)
    (hstart : config.startIndex = 0) (hend : 0 ≤ config.endIndex.toInt) (id : TokenId)
    (a : Assembly) :
    c.put a (.checksum id config) =
      .ok { a with
        buffer := a.buffer ++ algorithm.checksumBytes a.buffer config.byteOrder
        checksums := a.checksums ++ [⟨id, algorithm, 0, a.buffer.length,
          algorithm.checksumBytes a.buffer config.byteOrder⟩] } := by
  have hsplice := Checksum.Splice.of?_whole hname hstart hend a.buffer
  have hwarnings : c.warnings a (.checksum id config) = [] := by simp [warnings, hsplice]
  rw [put_eq, edit, hsplice, hwarnings]
  simp [after, hwarnings, Checksum.Splice.placement, Edit.apply, Edit.on, advance]

def withTrailer (c : Compiler) (id : TokenId) (algorithm : Checksum.Algorithm)
    (order : Option ByteOrder) (frame : Frame) : Frame :=
  let value := algorithm.checksumBytes frame.raw order
  { frame with
    sent := c.options.mode.encode (frame.raw ++ value)
    raw := frame.raw ++ value
    checksums := frame.checksums ++ [⟨id, algorithm, 0, frame.raw.length, value⟩] }

theorem compile_concat_checksum {algorithm : Checksum.Algorithm} (hget : tokens.get? key = some t)
    (hkind : t.kind = .checksum config)
    (hname : Checksum.Algorithm.ofName? config.algorithm = some algorithm)
    (hstart : config.startIndex = 0) (hend : 0 ≤ config.endIndex.toInt) (segments : List Segment)
    (id : SegmentId) :
    c.compile (segments ++ [.token id key]) tokens store =
      (c.compile segments tokens store).map (c.withTrailer t.id algorithm config.byteOrder) := by
  rw [compile_eq_foldlM, compile_eq_foldlM, leaves_append, leaves_checksum hget hkind,
    List.foldlM_append]
  simp only [List.foldlM_cons, List.foldlM_nil, bind_pure, put_whole hname hstart hend]
  cases (c.leaves tokens segments).foldlM c.put { counters := store } <;> rfl

theorem compile_concat_checksum_eq_ok_iff {algorithm : Checksum.Algorithm}
    (hget : tokens.get? key = some t) (hkind : t.kind = .checksum config)
    (hname : Checksum.Algorithm.ofName? config.algorithm = some algorithm)
    (hstart : config.startIndex = 0) (hend : 0 ≤ config.endIndex.toInt) {segments : List Segment}
    {id : SegmentId} {frame : Frame} :
    c.compile (segments ++ [.token id key]) tokens store = .ok frame ↔
      ∃ front, c.compile segments tokens store = .ok front ∧
        frame = c.withTrailer t.id algorithm config.byteOrder front := by
  rw [compile_concat_checksum hget hkind hname hstart hend]
  cases c.compile segments tokens store with
  | error e => simp [Except.map]
  | ok front => simp [Except.map, eq_comm]

/-- Whatever a CRC-16 in its natural byte order or a CRC-32 in little-endian order is put behind,
the checksum of the whole is always the same. So if the last segment of a template is a checksum of
such a kind over all that is there, the checksum of any frame that is made of the template is known
to the receiver, whatever else is in it. -/
theorem frames_check_themselves :
    (∀ data, Checksum.Algorithm.crc16Modbus.compute
      (data ++ Checksum.Algorithm.crc16Modbus.checksumBytes data none) = 0#16) ∧
    (∀ data, Checksum.Algorithm.crc16Ccitt.compute
      (data ++ Checksum.Algorithm.crc16Ccitt.checksumBytes data none) = 0#16) ∧
    (∀ data, Checksum.Algorithm.crc32.compute
      (data ++ Checksum.Algorithm.crc32.checksumBytes data (some .little)) = 0x2144DF1C#32) ∧
    ∀ (algorithm : Checksum.Algorithm) (c : Compiler) (segments : List Segment) (id : SegmentId)
      (key : TokenId) (tokens : TokenTable) (store : CounterStore) (t : Token)
      (config : ChecksumConfig) (frame : Frame),
      tokens.get? key = some t → t.kind = .checksum config →
      Checksum.Algorithm.ofName? config.algorithm = some algorithm →
      config.startIndex = 0 → 0 ≤ config.endIndex.toInt →
      config.byteOrder.getD algorithm.naturalOrder = algorithm.checkOrder →
      c.compile (segments ++ [.token id key]) tokens store = .ok frame →
      algorithm.compute frame.raw = algorithm.remainder := by
  refine ⟨fun data => Checksum.Algorithm.compute_append_checksumBytes rfl data,
    fun data => Checksum.Algorithm.compute_append_checksumBytes rfl data,
    fun data => Checksum.Algorithm.compute_append_checksumBytes rfl data, ?_⟩
  intro algorithm c segments id key tokens store t config frame hget hkind hname hstart hend horder
    hframe
  obtain ⟨front, -, rfl⟩ :=
    (compile_concat_checksum_eq_ok_iff hget hkind hname hstart hend).mp hframe
  exact Checksum.Algorithm.compute_append_checksumBytes horder front.raw

open Sample in
/-- In front of the last checksum stand a counter, an earlier checksum with a byte behind it, and a
container in which the counter is met again and a digit is lost. -/
theorem frames_check_themselves_sequenced :
    let sum : ChecksumConfig :=
      { algorithm := "CRC-32/IEEE", endIndex := 7, byteOrder := some .little }
    let box := token "box" (.container (.ofSegments [reference "b1" "seq", literal "b2" "A"]))
    let tokens := (sequenced.tokens.insert box).insert (token "sum" (.checksum sum))
    let segments := sequenced.template.segments ++ [reference "s5" "box"]
    ∃ frame,
      (fixedCompiler .hex).compile (segments ++ [reference "s6" "sum"]) tokens .empty = .ok frame ∧
      frame.raw = [0x7E, 0xFE, 0x10, 0x20, 0x13, 0xDE, 0x0D, 0xFF, 0x5B, 0x41, 0xB9, 0x77] ∧
      Checksum.Algorithm.crc32.compute frame.raw = 0x2144DF1C#32 := by
  intro sum box tokens segments
  let frame : Frame :=
    { sent := [0x7E, 0xFE, 0x10, 0x20, 0x13, 0xDE, 0x0D, 0xFF, 0x5B, 0x41, 0xB9, 0x77]
      raw := [0x7E, 0xFE, 0x10, 0x20, 0x13, 0xDE, 0x0D, 0xFF, 0x5B, 0x41, 0xB9, 0x77]
      checksums := [⟨⟨"crc"⟩, .crc16Ccitt, 1, 4, [0x13, 0xDE]⟩,
        ⟨⟨"sum"⟩, .crc32, 0, 8, [0x5B, 0x41, 0xB9, 0x77]⟩]
      warnings := [.truncatedNibble (.literal ⟨"b2"⟩) 'A']
      counters := .set .empty ⟨"seq"⟩ [0x00] }
  have hframe : (fixedCompiler .hex).compile (segments ++ [reference "s6" "sum"]) tokens .empty =
      .ok frame := by decide +kernel
  have hget : tokens.get? ⟨"sum"⟩ = some (token "sum" (.checksum sum)) := by decide +kernel
  have hname : Checksum.Algorithm.ofName? sum.algorithm = some .crc32 := by decide +kernel
  exact ⟨frame, hframe, rfl, frames_check_themselves.2.2.2 .crc32 _ segments _ _ tokens .empty _ sum
    frame hget rfl hname rfl (by decide) rfl hframe⟩

end Compiler

end SerialFrame
