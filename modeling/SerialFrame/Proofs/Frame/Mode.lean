import SerialFrame.Proofs.Frame.Run
import SerialFrame.Proofs.Hex.Lenient
import SerialFrame.Sample.Projects

/-!
# Modes

The mode is looked at when a frame is finished and nowhere else (`compile_withMode`). A frame sent
as text is its bytes as ASCII digits, and such a text is a literal that stands for the same bytes
(`compile_literal`). `mode_only_encodes` puts this together.
-/

namespace SerialFrame

theorem utf8Encode_of_ascii {text : List Char} (h : ∀ c ∈ text, c.toNat < 128) :
    text.utf8Encode = (text.map fun c => UInt8.ofNat c.toNat).toByteArray := by
  have hchar : ∀ c ∈ text, String.utf8EncodeChar c = [UInt8.ofNat c.toNat] := by
    intro c hc
    have hlt : c.val.toNat ≤ 127 := Nat.le_of_lt_succ (h c hc)
    simp only [String.utf8EncodeChar, if_pos hlt]
    rfl
  rw [List.utf8Encode, List.map_eq_flatMap, List.flatMap_congr hchar]

namespace Mode

theorem toNat_lt_of_mem_encode_text {raw : Bytes} {b : UInt8} (h : b ∈ text.encode raw) :
    b.toNat < 128 := by
  obtain ⟨c, hc, rfl⟩ := List.mem_map.mp h
  have hlt := Hex.toNat_lt_of_mem_spacedChars hc
  rw [UInt8.toNat_ofNat']
  omega

theorem encode_text_eq (raw : Bytes) : (text.encode raw).toByteArray = (Hex.spaced raw).toUTF8 := by
  rw [Hex.spaced, String.toUTF8, String.toByteArray_ofList,
    utf8Encode_of_ascii fun _ => Hex.toNat_lt_of_mem_spacedChars]
  rfl

end Mode

namespace Compiler

variable {c : Compiler} {tokens : TokenTable} {store : CounterStore}

def withMode (c : Compiler) (mode : Mode) : Compiler :=
  { c with options := { c.options with mode } }

theorem sameLimits_withMode (mode : Mode) : SameLimits c (c.withMode mode) :=
  ⟨rfl, rfl, rfl⟩

theorem placeLeaf_withMode (mode : Mode) (leaf : Leaf) :
    (c.withMode mode).placeLeaf leaf = c.placeLeaf leaf := by
  have hsame := sameLimits_withMode (c := c) mode
  -- Of the options, how a leaf ends depends on the limits and on strictness.
  have hjudge : Build.Outcome.judge (c.withMode mode).options = Build.Outcome.judge c.options := rfl
  have hpayload : (c.withMode mode).payload = c.payload := rfl
  funext a
  rw [placeLeaf_eq, placeLeaf_eq, outcome, outcome, effect, effect, hsame.edit, hsame.warnings,
    hjudge, hpayload, funext (hsame.after leaf)]

theorem compile_withMode (mode : Mode) (segments : List Segment) :
    (c.withMode mode).compile segments tokens store =
      (c.compile segments tokens store).map fun f => { f with sent := mode.encode f.raw } := by
  have hplace : (c.withMode mode).placeLeaf = c.placeLeaf := funext (placeLeaf_withMode mode)
  rw [compile_eq_compileLeaves, compile_eq_compileLeaves, compileLeaves, compileLeaves, hplace,
    (sameLimits_withMode mode).leaves]
  cases (c.leaves tokens segments).forM c.placeLeaf { counters := store } <;> rfl

/-- A literal that can be read exactly stands for its bytes and for nothing else. -/
theorem compile_literal {text : String} {bytes : Bytes} (h : Hex.readExact text = .ok bytes)
    (id : SegmentId) :
    c.compile [.literal id text] tokens store =
      .ok { sent := c.options.mode.encode bytes, raw := bytes, checksums := [], warnings := [],
            counters := store } := by
  have hread := Hex.readLenient_of_readExact h
  have hleaves : c.leaves tokens [.literal id text] = [.text (.literal id) text] := rfl
  have hedit : c.edit { counters := store } (.text (.literal id) text) = .ok (.append bytes) := by
    simp [edit, payload, payload?, hread]
  have hwarnings : c.warnings { counters := store } (.text (.literal id) text) = [] := by
    simp [warnings, Hex.Reading.warnings, hread]
  have hplace := placeLeaf_eq_ok_iff.mpr ⟨_, hedit, rfl, fun _ => hwarnings⟩
  have hrun := run_cons_eq_ok_iff.mpr ⟨_, hplace, (rfl : [].forM c.placeLeaf _ = .ok () _)⟩
  rw [← hleaves] at hrun
  refine compile_eq_ok_iff.mpr ⟨_, hrun, ?_⟩
  simp [finish, after, hwarnings, Edit.apply, Edit.on, advance]

/-- The mode decides how the bytes of a frame are sent and nothing else: under another mode a compile
fails with the same error, or makes the same frame but for what is sent. In hex mode the bytes are
sent themselves. In text mode an ASCII text is sent from which both readers of hex text get the bytes
back, the lenient one without a loss; and a template of one literal that holds this text makes a
frame of the same bytes, without a warning or a checksum, whatever the options. -/
theorem mode_only_encodes (c : Compiler) (segments : List Segment) (tokens : TokenTable)
    (store : CounterStore) :
    (∀ mode, (c.withMode mode).compile segments tokens store =
      (c.compile segments tokens store).map fun f => { f with sent := mode.encode f.raw }) ∧
    ∀ frame, c.compile segments tokens store = .ok frame →
      (c.options.mode = .hex → frame.sent = frame.raw) ∧
      (c.options.mode = .text → ∃ text : String,
        frame.sent.toByteArray = text.toUTF8 ∧ (∀ b ∈ frame.sent, b.toNat < 128) ∧
        Hex.readLenient text = { bytes := frame.raw, stripped := 0, droppedNibble := none } ∧
        Hex.readExact text = .ok frame.raw ∧
        ∀ (c' : Compiler) (tokens' : TokenTable) (store' : CounterStore) (id : SegmentId),
          c'.compile [.literal id text] tokens' store' =
            .ok { sent := c'.options.mode.encode frame.raw, raw := frame.raw, checksums := [],
                  warnings := [], counters := store' }) := by
  refine ⟨fun mode => compile_withMode mode segments, fun frame hframe => ?_⟩
  obtain ⟨b, -, rfl⟩ := compile_eq_ok_iff.mp hframe
  have hsent : (c.finish b).sent = c.options.mode.encode (c.finish b).raw := rfl
  constructor
  · intro hmode
    rw [hsent, hmode]
    rfl
  · intro hmode
    have hexact : Hex.readExact (c.finish b).hexText = .ok (c.finish b).raw := Hex.readExact_spaced _
    rw [hsent, hmode]
    exact ⟨(c.finish b).hexText, Mode.encode_text_eq _, fun _ => Mode.toNat_lt_of_mem_encode_text,
      Hex.readLenient_of_readExact hexact, hexact, fun c' _ _ => compile_literal hexact⟩

open Sample in
/-- A frame with a checksum, sent in both modes; what is sent as text is compiled again, strictly. -/
theorem mode_only_encodes_modbus :
    let segments := modbusRead.template.segments
    let raw : Bytes := [0x01, 0x03, 0x00, 0x00, 0x00, 0x0A, 0xC5, 0xCD]
    ∃ frame, (fixedCompiler .text).compile segments modbusRead.tokens .empty = .ok frame ∧
      frame.raw = raw ∧ frame.checksums ≠ [] ∧
      (fixedCompiler .hex).compile segments modbusRead.tokens .empty =
        .ok { frame with sent := raw } ∧
      ∃ text : String, frame.sent.toByteArray = text.toUTF8 ∧
        (strictCompiler .hex).compile [literal "s1" text] .empty .empty =
          .ok { sent := raw, raw, checksums := [], warnings := [], counters := .empty } := by
  intro segments raw
  let frame : Frame :=
    { sent := Mode.text.encode raw
      raw
      checksums := [⟨⟨"crc"⟩, .crc16Modbus, 0, 6, [0xC5, 0xCD]⟩]
      warnings := []
      counters := .empty }
  have hframe : (fixedCompiler .text).compile segments modbusRead.tokens .empty = .ok frame := by
    decide +kernel
  obtain ⟨hmodes, hsent⟩ :=
    mode_only_encodes (fixedCompiler .text) segments modbusRead.tokens .empty
  have hhex := hmodes .hex
  rw [hframe] at hhex
  obtain ⟨text, htext, -, -, -, hliteral⟩ := (hsent frame hframe).2 rfl
  exact ⟨frame, hframe, rfl, List.cons_ne_nil _ _, hhex, text, htext,
    hliteral (strictCompiler .hex) .empty .empty ⟨"s1"⟩⟩

end Compiler

end SerialFrame
