import SerialFrame.Proofs.Checksum.Splice
import SerialFrame.Proofs.Frame.Run
import SerialFrame.Sample.Projects

/-!
# Checksums verify in the finished frame

Once inserted, a checksum stands behind the bytes it covers. Bytes appended later leave both where
they are; a checksum inserted later in front of them moves them on, and one behind them does not.
`Placement.follow` computes where they end up from the later records alone, and
`undisturbed_checksum_verifies` says that they are there in the finished frame.
-/

namespace SerialFrame

namespace Placement

/-- Where the covered bytes `q..p`, with `width` bytes of checksum behind them, lie after later
insertions; none if one of these falls inside of them. -/
def follow (width : Nat) : List Placement → Nat × Nat → Option (Nat × Nat)
  | [], span => some span
  | later :: rest, (q, p) =>
    if later.offset ≤ q then
      follow width rest (q + later.value.length, p + later.value.length)
    else if p + width ≤ later.offset then follow width rest (q, p)
    else none

/-- The checksum stands at `p` in `raw` and is that of the bytes `q..p`, in the byte order `order`
or else in the natural one. -/
structure Verifies (r : Placement) (order : Option ByteOrder) (raw : Bytes) (q p : Nat) : Prop where
  ordered : q ≤ p
  fits : p + r.value.length ≤ raw.length
  placed : raw.slice p (p + r.value.length) = r.value
  covers : r.value = r.algorithm.checksumBytes (raw.slice q p) order

def Stands (r : Placement) (order : Option ByteOrder) (raw : Bytes) (q p : Nat) : Prop :=
  ∃ front covered back, raw = front ++ (covered ++ (r.value ++ back)) ∧ q = front.length ∧
    p = front.length + covered.length ∧ r.value = r.algorithm.checksumBytes covered order

theorem follow_append (width : Nat) (xs ys : List Placement) (span : Nat × Nat) :
    follow width (xs ++ ys) span = (follow width xs span).bind (follow width ys) := by
  induction xs generalizing span with
  | nil => rfl
  | cons x xs ih =>
    obtain ⟨q, p⟩ := span
    simp only [List.cons_append, follow]
    split
    · exact ih _
    · split
      · exact ih _
      · rfl

theorem follow_behind {width q p : Nat} (hw : 0 < width) (hqp : q ≤ p) {after : List Placement}
    (h : ∀ later ∈ after, p + width ≤ later.offset) : follow width after (q, p) = some (q, p) := by
  induction after with
  | nil => rfl
  | cons later rest ih =>
    have hlater := h later List.mem_cons_self
    have hq : ¬ later.offset ≤ q := by omega
    rw [follow, if_neg hq, if_pos hlater]
    exact ih fun l hl => h l (List.mem_cons_of_mem _ hl)

namespace Stands

variable {r : Placement} {order : Option ByteOrder} {raw : Bytes} {q p : Nat}

theorem verifies (h : r.Stands order raw q p) : r.Verifies order raw q p := by
  obtain ⟨front, covered, back, rfl, rfl, rfl, hvalue⟩ := h
  have hplaced : Bytes.slice (front ++ (covered ++ (r.value ++ back)))
      (front.length + covered.length) (front.length + covered.length + r.value.length) =
        r.value := by
    simp [Bytes.slice, List.take_append, List.drop_append, Nat.add_assoc]
  have hcovered : Bytes.slice (front ++ (covered ++ (r.value ++ back))) front.length
      (front.length + covered.length) = covered := by
    simp [Bytes.slice, List.take_append]
  refine ⟨Nat.le_add_right _ _, ?_, hplaced, ?_⟩
  · simp
    omega
  · rw [hcovered]
    exact hvalue

theorem append (h : r.Stands order raw q p) (bytes : Bytes) : r.Stands order (raw ++ bytes) q p := by
  obtain ⟨front, covered, back, rfl, hq, hp, hvalue⟩ := h
  exact ⟨front, covered, back ++ bytes, by simp, hq, hp, hvalue⟩

theorem insert_before (h : r.Stands order raw q p) (bytes : Bytes) {k : Nat} (hk : k ≤ q) :
    r.Stands order (raw.take k ++ bytes ++ raw.drop k) (q + bytes.length) (p + bytes.length) := by
  obtain ⟨front, covered, back, rfl, rfl, rfl, hvalue⟩ := h
  refine ⟨front.take k ++ bytes ++ front.drop k, covered, back, ?_, ?_, ?_, hvalue⟩
  · rw [List.take_append_of_le_length hk, List.drop_append_of_le_length hk]
    simp
  · simp
    omega
  · simp
    omega

theorem insert_behind (h : r.Stands order raw q p) (bytes : Bytes) {k : Nat}
    (hk : p + r.value.length ≤ k) : r.Stands order (raw.take k ++ bytes ++ raw.drop k) q p := by
  obtain ⟨front, covered, back, rfl, rfl, rfl, hvalue⟩ := h
  set block := front ++ (covered ++ r.value) with hblock
  have hlen : block.length ≤ k := by
    simp [hblock]
    omega
  have hraw : front ++ (covered ++ (r.value ++ back)) = block ++ back := by simp [hblock]
  refine ⟨front, covered, back.take (k - block.length) ++ bytes ++ back.drop (k - block.length),
    ?_, rfl, rfl, hvalue⟩
  rw [hraw, List.take_append, List.drop_append, List.take_of_length_le hlen,
    List.drop_eq_nil_of_le hlen]
  simp [hblock]

end Stands

end Placement

namespace Checksum

theorem Splice.stands {config : ChecksumConfig} {buffer : Bytes} {s : Splice}
    (h : Splice.of? config buffer = some s) (id : TokenId) :
    (s.placement id).Stands config.byteOrder (s.apply buffer) s.start s.offset := by
  obtain ⟨-, hstart, hoffset, hvalue⟩ := of?_eq_some h
  refine ⟨buffer.take s.start, buffer.slice s.start s.offset, buffer.drop s.offset, ?_, ?_, ?_,
    hvalue⟩
  · show buffer.take s.offset ++ s.value ++ buffer.drop s.offset = _
    have hfront : buffer.take s.start = (buffer.take s.offset).take s.start := by
      rw [List.take_take, Nat.min_eq_left hstart]
    rw [hfront, Bytes.slice, ← List.append_assoc, List.take_append_drop, List.append_assoc]
    rfl
  · simp
    omega
  · simp [Bytes.slice]
    omega

end Checksum

namespace Compiler

variable {c : Compiler} {tokens : TokenTable} {a : Assembly}

/-- The checksums placed so far are those of the leaves placed so far, in order, and stand where
the later ones have moved them. -/
structure Sound (done : List Leaf) (a : Assembly) : Prop where
  length : (done.filterMap Leaf.checksum?).length = a.checksums.length
  stands : ∀ before r after, a.checksums = before ++ r :: after →
    0 < r.value.length ∧ r.start ≤ r.offset ∧
    ∃ config, (done.filterMap Leaf.checksum?)[before.length]? = some (r.token, config) ∧
      Checksum.Algorithm.ofName? config.algorithm = some r.algorithm ∧
      ∀ q p, Placement.follow r.value.length after (r.start, r.offset) = some (q, p) →
        r.Stands config.byteOrder a.buffer q p

theorem Sound.append {done : List Leaf} {leaf : Leaf} (h : Sound done a)
    (hleaf : leaf.checksum? = none) :
    Sound (done ++ [leaf]) (c.after a leaf (.append (c.payload a.counters leaf))) := by
  have hdone : (done ++ [leaf]).filterMap Leaf.checksum? = done.filterMap Leaf.checksum? := by
    simp [hleaf]
  have hsame : (c.after a leaf (.append (c.payload a.counters leaf))).checksums = a.checksums :=
    List.append_nil _
  refine ⟨by rw [hdone, hsame]; exact h.length, fun before r after hr => ?_⟩
  rw [hsame] at hr
  obtain ⟨hwidth, hstart, config, hconfig, hname, hstands⟩ := h.stands before r after hr
  rw [hdone]
  exact ⟨hwidth, hstart, config, hconfig, hname, fun q p hfollow => (hstands q p hfollow).append _⟩

theorem Sound.insert {done : List Leaf} {id : TokenId} {config : ChecksumConfig}
    {splice : Checksum.Splice} (h : Sound done a)
    (hsplice : Checksum.Splice.of? config a.buffer = some splice) :
    Sound (done ++ [.checksum id config])
      (c.after a (.checksum id config) (.insert (splice.placement id))) := by
  have hdone : (done ++ [Leaf.checksum id config]).filterMap Leaf.checksum? =
      done.filterMap Leaf.checksum? ++ [(id, config)] := by simp [Leaf.checksum?]
  obtain ⟨hname, hstart, -, -⟩ := Checksum.Splice.of?_eq_some hsplice
  refine ⟨?_, fun before r after hr => ?_⟩
  · rw [hdone]
    simp [after, Edit.placement?, h.length]
  change a.checksums ++ [splice.placement id] = before ++ r :: after at hr
  rw [hdone]
  rcases split_concat hr with ⟨rfl, rfl, rfl⟩ | ⟨init, rfl, hold⟩
  · -- the record is the new one
    refine ⟨?_, hstart, config, ?_, hname, fun q p hfollow => ?_⟩
    · show 0 < splice.value.length
      rw [Checksum.Splice.length_value hsplice]
      exact splice.algorithm.width_pos
    · rw [← h.length, List.getElem?_concat_length]
      rfl
    · obtain ⟨rfl, rfl⟩ := Prod.mk.inj (Option.some.inj hfollow)
      exact Checksum.Splice.stands hsplice id
  · -- the record was there before and the new one comes last
    obtain ⟨hwidth, hstart, config', hconfig, hname, hstands⟩ := h.stands before r init hold
    have hlt : before.length < (done.filterMap Leaf.checksum?).length := by
      rw [h.length, hold]
      simp
    refine ⟨hwidth, hstart, config', ?_, hname, fun q p hfollow => ?_⟩
    · rw [List.getElem?_append_left hlt]
      exact hconfig
    rw [Placement.follow_append] at hfollow
    obtain ⟨⟨q', p'⟩, hfollow', hlast⟩ := Option.bind_eq_some_iff.mp hfollow
    have hthere := hstands q' p' hfollow'
    simp only [Placement.follow] at hlast
    split at hlast
    · next hbefore =>
      obtain ⟨rfl, rfl⟩ := Prod.mk.inj (Option.some.inj hlast)
      exact hthere.insert_before _ hbefore
    · split at hlast
      · next hbehind =>
        obtain ⟨rfl, rfl⟩ := Prod.mk.inj (Option.some.inj hlast)
        exact hthere.insert_behind _ hbehind
      · cases hlast

theorem run_sound {leaves : List Leaf} {store : CounterStore} {b : Assembly}
    (hrun : leaves.forM c.placeLeaf { counters := store } = .ok () b) : Sound leaves b := by
  refine run_invariant hrun ⟨rfl, fun before r after hr => ?_⟩ fun done leaf a edit _ h hedit => ?_
  · exact absurd hr.symm (by simp)
  · rcases edit_cases hedit with ⟨hleaf, rfl⟩ | ⟨id, config, splice, rfl, hsplice, rfl⟩
    · exact h.append hleaf
    · exact h.insert hsplice

/-- Every checksum that no later one was inserted into is found in the finished frame, right behind
the bytes it is the checksum of: at the place that `Placement.follow` computes from the later
records, and at the recorded one if all later records (if any) lie behind it. The algorithm and the
byte order are those of the token it was made for. -/
theorem undisturbed_checksum_verifies {segments : List Segment} {store : CounterStore}
    {frame : Frame} (h : c.compile segments tokens store = .ok frame)
    {before after : List Placement} {r : Placement} (hr : frame.checksums = before ++ r :: after) :
    ∃ key t config, tokens.get? key = some t ∧ t.id = r.token ∧ t.kind = .checksum config ∧
      ((c.leaves tokens segments).filterMap Leaf.checksum?)[before.length]? =
        some (r.token, config) ∧
      Checksum.Algorithm.ofName? config.algorithm = some r.algorithm ∧
      (∀ q p, Placement.follow r.value.length after (r.start, r.offset) = some (q, p) →
        r.Verifies config.byteOrder frame.raw q p) ∧
      ((∀ later ∈ after, r.offset + r.value.length ≤ later.offset) →
        r.Verifies config.byteOrder frame.raw r.start r.offset) := by
  obtain ⟨b, hrun, rfl⟩ := compile_eq_ok_iff.mp h
  obtain ⟨hwidth, hstart, config, hconfig, hname, hstands⟩ :=
    (run_sound hrun).stands before r after hr
  have hmem : Leaf.checksum r.token config ∈ c.leaves tokens segments := by
    obtain ⟨leaf, hleaf, heq⟩ := List.mem_filterMap.mp (List.mem_of_getElem? hconfig)
    cases leaf <;> cases heq
    exact hleaf
  obtain ⟨key, t, hget, hid, hkind⟩ := Leaf.fromTable_ofSegments _ _ _ _ hmem
  refine ⟨key, t, config, hget, hid, hkind, hconfig, hname, fun q p hfollow => ?_, fun hbehind => ?_⟩
  · exact (hstands q p hfollow).verifies
  · exact (hstands _ _ (Placement.follow_behind hwidth hstart hbehind)).verifies

open Sample in
/-- The second checksum is inserted at the very start of what the first covers and moves it on. -/
theorem undisturbed_checksum_verifies_moved :
    let p := project
      [reference "s1" "body", reference "s2" "crc", reference "s3" "head", literal "s4" "0D"]
      [token "body" (.container (.ofSegments [literal "c1" "01 02"])),
        token "crc" (.checksum { wholeFrame .crc16Modbus with byteOrder := some .big }),
        token "head" (.checksum { wholeFrame .crc16Ccitt with startIndex := 9, endIndex := -4 })]
    let crc : Placement := ⟨⟨"crc"⟩, .crc16Modbus, 0, 2, [0xE1, 0x81]⟩
    let head : Placement := ⟨⟨"head"⟩, .crc16Ccitt, 0, 0, [0xFF, 0xFF]⟩
    ∃ frame, p.compile {} .empty = .ok frame ∧ frame.checksums = [] ++ crc :: [head] ∧
      Placement.follow 2 [head] (0, 2) = some (2, 4) ∧
      ∃ config : ChecksumConfig, crc.Verifies config.byteOrder frame.raw 2 4 := by
  intro p crc head
  let frame : Frame :=
    { sent := [0xFF, 0xFF, 0x01, 0x02, 0xE1, 0x81, 0x0D]
      raw := [0xFF, 0xFF, 0x01, 0x02, 0xE1, 0x81, 0x0D]
      checksums := [crc, head]
      warnings := [.checksumRangeClamped ⟨"head"⟩ 9 (-4) 4]
      counters := .empty }
  have h : p.compile {} .empty = .ok frame := by decide +kernel
  have hr : frame.checksums = [] ++ crc :: [head] := rfl
  obtain ⟨-, -, config, -, -, -, -, -, hmoved, -⟩ := undisturbed_checksum_verifies h hr
  exact ⟨frame, h, hr, rfl, config, hmoved 2 4 rfl⟩

end Compiler

end SerialFrame
