import SerialFrame.Command.Checksum
import SerialFrame.Proofs.Frame.Accounting
import SerialFrame.Proofs.Frame.Mode
import SerialFrame.Proofs.Frame.Trailer

/-!
# The checksum command and the compiler

The command reads its texts exactly and makes the checksum itself (`compute_eq_ok_iff`). The
compiler reads a literal leniently, warns of what it lost, and inserts a checksum where the token
says; in strict mode the first warning ends the work (`compile_literal_checksum_eq_ok_iff`). Both
accept the same texts and the same names, and make the same bytes of them:
`compute_agrees_with_compile`.
-/

namespace SerialFrame

def ByteOrder.spellings : ByteOrder → List String
  | .big => ["big", "be"]
  | .little => ["little", "le"]

namespace Compiler

variable {c : Compiler} {tokens : TokenTable} {store : CounterStore} {key : TokenId} {t : Token}
  {config : ChecksumConfig} {text : String} {frame : Frame}

theorem readExact_of_strict_literal (hstrict : c.options.strict = true) {id : SegmentId}
    (h : c.compile [.literal id text] tokens store = .ok frame) :
    ∃ bytes, Hex.readExact text = .ok bytes := by
  obtain ⟨b, hrun, -⟩ := compile_eq_ok_iff.mp h
  obtain ⟨x, hplace, -⟩ := run_cons_eq_ok_iff.mp hrun
  obtain ⟨edit, -, -, hquiet⟩ := placeLeaf_eq_ok_iff.mp hplace
  obtain ⟨hstripped, hdropped⟩ :=
    ((Hex.readLenient text).warnings_eq_nil_iff (.literal id)).mp (hquiet hstrict)
  refine ⟨(Hex.readLenient text).bytes, Hex.readExact_eq_ok_iff_readLenient.mpr ?_⟩
  rw [← hstripped, ← hdropped]

theorem known_of_compile_concat_checksum (hget : tokens.get? key = some t)
    (hkind : t.kind = .checksum config) (segments : List Segment) (id : SegmentId)
    (h : c.compile (segments ++ [.token id key]) tokens store = .ok frame) :
    ∃ algorithm, Checksum.Algorithm.ofName? config.algorithm = some algorithm := by
  obtain ⟨b, hrun, -⟩ := compile_eq_ok_iff.mp h
  rw [leaves_append, leaves_checksum hget hkind, Build.run_forM_append] at hrun
  cases hfront : (c.leaves tokens segments).forM c.placeLeaf { counters := store } with
  | error e a =>
    rw [hfront] at hrun
    cases hrun
  | ok u a =>
    rw [hfront] at hrun
    obtain ⟨x, hplace, -⟩ := run_cons_eq_ok_iff.mp hrun
    obtain ⟨edit, hedit, -⟩ := placeLeaf_eq_ok_iff.mp hplace
    rcases edit_cases hedit with ⟨hnone, -⟩ | ⟨_, _, splice, hleaf, hsplice, -⟩
    · cases hnone
    · cases hleaf
      exact ⟨splice.algorithm, (Checksum.Splice.of?_eq_some hsplice).1⟩

theorem compile_literal_checksum_eq_ok_iff (hstrict : c.options.strict = true)
    (hget : tokens.get? key = some t) (hkind : t.kind = .checksum config)
    (hstart : config.startIndex = 0) (hend : 0 ≤ config.endIndex.toInt) (first second : SegmentId) :
    c.compile [.literal first text, .token second key] tokens store = .ok frame ↔
      ∃ algorithm input, Checksum.Algorithm.ofName? config.algorithm = some algorithm ∧
        Hex.readExact text = .ok input ∧
        frame = c.withTrailer t.id algorithm config.byteOrder
          { sent := c.options.mode.encode input, raw := input, checksums := [], warnings := [],
            counters := store } := by
  change c.compile ([.literal first text] ++ [.token second key]) tokens store = _ ↔ _
  constructor
  · intro h
    obtain ⟨algorithm, hname⟩ := known_of_compile_concat_checksum hget hkind _ _ h
    obtain ⟨front, hfront, rfl⟩ :=
      (compile_concat_checksum_eq_ok_iff hget hkind hname hstart hend).mp h
    obtain ⟨input, hread⟩ := readExact_of_strict_literal hstrict hfront
    rw [compile_literal hread] at hfront
    obtain rfl := Except.ok.inj hfront
    exact ⟨algorithm, input, hname, hread, rfl⟩
  · rintro ⟨algorithm, input, hname, hread, rfl⟩
    exact (compile_concat_checksum_eq_ok_iff hget hkind hname hstart hend).mpr
      ⟨_, compile_literal hread first, rfl⟩

end Compiler

namespace ChecksumReport

variable {algorithm : String} {texts : List String} {byteOrder : Option String}
  {order : Option ByteOrder} {report : ChecksumReport}

theorem readByteOrder_eq_ok_iff {value : String} {order : ByteOrder} :
    readByteOrder value = .ok order ↔ Text.lowerAscii value ∈ order.spellings := by
  unfold readByteOrder
  split <;> cases order <;> simp_all [ByteOrder.spellings]

theorem compute_eq_ok_iff (horder : byteOrder.mapM readByteOrder = .ok order) :
    compute algorithm texts byteOrder = .ok report ↔
      ∃ a input, Checksum.Algorithm.ofName? algorithm = some a ∧
        Hex.readExact (String.join texts) = .ok input ∧
        report = { algorithm := a, inputLength := input.length, value := (a.compute input).toNat,
                   bytes := a.checksumBytes input order } := by
  unfold compute Checksum.Algorithm.parse
  rw [horder]
  cases Checksum.Algorithm.ofName? algorithm with
  | none => simp [Except.mapError, bind, Except.bind]
  | some a =>
    cases Hex.readExact (String.join texts) with
    | error defect => simp [Except.mapError, bind, Except.bind]
    | ok input => simp [Except.mapError, bind, Except.bind, pure, Except.pure, eq_comm]

/-- The checksum command agrees with the compiler. Let `order` be what its byte order argument is
read as, which may be missing, or spelled in full or by its initials in either letter case. Then the
command succeeds if and only if a strict compile does that is given the same texts, put together in
one literal, and a checksum by the same name and in the same order over all of it. The one checksum
of the frame is that of the command; it covers the bytes that the command counted and stands behind
them, and when it is received in the order asked for, or else the natural one, it is the number that
the command gives. -/
theorem compute_agrees_with_compile {c : Compiler} (hstrict : c.options.strict = true)
    (horder : byteOrder.mapM readByteOrder = .ok order) {tokens : TokenTable} {key : TokenId}
    {t : Token} (hget : tokens.get? key = some t)
    (hkind : t.kind = .checksum { algorithm, startIndex := 0, endIndex := 0, byteOrder := order })
    (texts : List String) (first second : SegmentId) (store : CounterStore) :
    let segments : List Segment := [.literal first (String.join texts), .token second key]
    (∀ value o, readByteOrder value = .ok o ↔ Text.lowerAscii value ∈ o.spellings) ∧
    ((∃ report, compute algorithm texts byteOrder = .ok report) ↔
      ∃ frame, c.compile segments tokens store = .ok frame) ∧
    ∀ report frame, compute algorithm texts byteOrder = .ok report →
      c.compile segments tokens store = .ok frame →
      ∃ input placement, Hex.readExact (String.join texts) = .ok input ∧
        input.length = report.inputLength ∧
        frame.checksums = [placement] ∧ placement.value = report.bytes ∧
        placement.algorithm = report.algorithm ∧ placement.start = 0 ∧
        placement.offset = report.inputLength ∧
        frame.raw = input ++ report.bytes ∧
        (order.getD report.algorithm.naturalOrder).decode report.bytes = report.value := by
  intro segments
  have hend : (0 : Int) ≤ Int64.toInt 0 := by decide
  have hcompile (frame : Frame) : c.compile segments tokens store = .ok frame ↔ _ :=
    Compiler.compile_literal_checksum_eq_ok_iff hstrict hget hkind rfl hend first second
  refine ⟨fun value o => readByteOrder_eq_ok_iff, ⟨?_, ?_⟩, ?_⟩
  · rintro ⟨report, h⟩
    obtain ⟨a, input, hname, hread, -⟩ := (compute_eq_ok_iff horder).mp h
    exact ⟨_, (hcompile _).mpr ⟨a, input, hname, hread, rfl⟩⟩
  · rintro ⟨frame, h⟩
    obtain ⟨a, input, hname, hread, -⟩ := (hcompile _).mp h
    exact ⟨_, (compute_eq_ok_iff horder).mpr ⟨a, input, hname, hread, rfl⟩⟩
  · intro report frame hreport hframe
    obtain ⟨a, input, hname, hread, rfl⟩ := (compute_eq_ok_iff horder).mp hreport
    obtain ⟨a', input', hname', hread', rfl⟩ := (hcompile _).mp hframe
    obtain rfl := Option.some.inj (hname.symm.trans hname')
    obtain rfl := Except.ok.inj (hread.symm.trans hread')
    exact ⟨input, ⟨t.id, a, 0, input.length, a.checksumBytes input order⟩, hread, rfl, rfl, rfl,
      rfl, rfl, rfl, rfl, a.decode_checksumBytes input order⟩

open Sample in
/-- Two arguments share a byte between them, and the order is not the natural one. -/
theorem compute_agrees_with_compile_split :
    let sum : ChecksumConfig := { algorithm := "Modbus_CRC16", byteOrder := some .big }
    let texts := ["0", "1 03\n0", "000000A"]
    let tokens := TokenTable.ofTokens [token "sum" (.checksum sum)]
    ∃ report frame,
      ChecksumReport.compute "Modbus_CRC16" texts (some "Be") = .ok report ∧
      (strictCompiler .text).compile
        [literal "s1" (String.join texts), reference "s2" "sum"] tokens .empty = .ok frame ∧
      frame.raw = [0x01, 0x03, 0x00, 0x00, 0x00, 0x0A, 0xCD, 0xC5] ∧
      report.bytes = [0xCD, 0xC5] ∧ frame.checksums.map (·.value) = [report.bytes] ∧
      ByteOrder.big.decode report.bytes = report.value := by
  intro sum texts tokens
  have horder : (some "Be").mapM readByteOrder = .ok (some .big) := by decide +kernel
  have hget : tokens.get? ⟨"sum"⟩ = some (token "sum" (.checksum sum)) := by decide +kernel
  let report : ChecksumReport :=
    { algorithm := .crc16Modbus, inputLength := 6, value := 0xCDC5, bytes := [0xCD, 0xC5] }
  have hreport : compute "Modbus_CRC16" texts (some "Be") = .ok report := by decide +kernel
  obtain ⟨-, haccepts, hsame⟩ := compute_agrees_with_compile
    (c := strictCompiler .text) rfl horder hget rfl texts ⟨"s1"⟩ ⟨"s2"⟩ .empty
  obtain ⟨frame, hframe⟩ := haccepts.mp ⟨report, hreport⟩
  obtain ⟨input, placement, hread, -, hchecksums, hvalue, -, -, -, hraw, hdecode⟩ :=
    hsame report frame hreport hframe
  have hinput : Hex.readExact (String.join texts) = .ok [0x01, 0x03, 0x00, 0x00, 0x00, 0x0A] := by
    decide +kernel
  obtain rfl := Except.ok.inj (hread.symm.trans hinput)
  refine ⟨report, frame, hreport, hframe, hraw, rfl, ?_, hdecode⟩
  rw [hchecksums, List.map_singleton, hvalue]

end ChecksumReport

end SerialFrame
