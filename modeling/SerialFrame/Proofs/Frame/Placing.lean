import SerialFrame.Frame.Edit

/-!
# Placing a leaf

`placeLeaf_eq`: placing a leaf refuses an unknown algorithm, stops at the first warning if the
options are strict, and otherwise has the effect of the leaf. All that is shown of compiling rests
on this; the primitives of `Build` are opened here and nowhere else.
-/

namespace SerialFrame

namespace Build

abbrev Outcome := EStateM.Result FrameError Assembly Unit

def Outcome.assembly : Outcome → Assembly
  | .ok _ a => a
  | .error _ a => a

/-- Warnings end the work in the assembly `stopped` if the options are strict, else it goes on. -/
def Outcome.judge (o : Options) (ws : List Warning) (stopped done : Assembly) : Outcome :=
  match ws with
  | [] => .ok () done
  | w :: _ => if o.strict then .error (.degraded w) stopped else .ok () done

variable {o : Options} {a : Assembly}

theorem run_modify (f : Assembly → Assembly) : (modify f : Build Unit) a = .ok () (f a) := rfl

theorem run_get_bind (f : Assembly → Build Unit) : (get >>= f) a = f a a := rfl

theorem run_bind (m n : Build Unit) :
    (m >>= fun _ => n) a = match m a with
      | .ok _ b => n b
      | .error e b => .error e b := by
  show EStateM.bind m (fun _ => n) a = _
  unfold EStateM.bind
  cases m a <;> rfl

theorem run_append_bind (bytes : Bytes) (m : Build Unit) :
    (append bytes >>= fun _ => m) a = m { a with buffer := a.buffer ++ bytes } := rfl

theorem run_warn (w : Warning) :
    warn o w a = Outcome.judge o [w] a { a with warnings := a.warnings ++ [w] } := by
  unfold warn Outcome.judge
  split <;> rfl

/-- Of two warnings, only the first counts in strict mode. -/
theorem run_warn_warn (w w' : Warning) :
    (warn o w >>= fun _ => warn o w') a =
      Outcome.judge o [w, w'] a { a with warnings := a.warnings ++ [w, w'] } := by
  rw [run_bind, run_warn]
  by_cases h : o.strict = true <;> simp [Outcome.judge, h, run_warn]

theorem run_appendHex (origin : Origin) (text : String) :
    appendHex o origin text a =
      Outcome.judge o ((Hex.readLenient text).warnings origin)
        { a with buffer := a.buffer ++ (Hex.readLenient text).bytes }
        { a with
          buffer := a.buffer ++ (Hex.readLenient text).bytes
          warnings := a.warnings ++ (Hex.readLenient text).warnings origin } := by
  unfold appendHex Hex.Reading.warnings
  obtain ⟨bytes, stripped, dropped⟩ := Hex.readLenient text
  dsimp only
  by_cases h : 0 < stripped
  · cases dropped with
    | none =>
      simp only [h, if_true, bind_pure_unit]
      exact (run_append_bind ..).trans (run_warn _)
    | some nibble =>
      simp only [h, if_true]
      exact (run_append_bind ..).trans (run_warn_warn ..)
  · cases dropped with
    | none =>
      simp only [h, if_false, Option.map_none, Option.toList_none, List.append_nil]
      rfl
    | some nibble =>
      simp only [h, if_false]
      exact (run_append_bind ..).trans (run_warn _)

theorem run_insertChecksum (id : TokenId) (config : ChecksumConfig) :
    insertChecksum o id config a =
      match Checksum.Splice.of? config a.buffer with
      | none => .error (.unsupportedAlgorithm id config.algorithm) a
      | some splice =>
        let clamped := if splice.clamped then
          [Warning.checksumRangeClamped id config.startIndex config.endIndex a.buffer.length] else []
        Outcome.judge o clamped a
          { a with
            buffer := splice.apply a.buffer
            checksums := a.checksums ++ [splice.placement id]
            warnings := a.warnings ++ clamped } := by
  unfold insertChecksum
  rw [run_get_bind]
  dsimp only
  cases Checksum.Splice.of? config a.buffer with
  | none => rfl
  | some splice =>
    dsimp only
    by_cases h : splice.clamped = true
    · simp only [h, if_true]
      rw [run_bind, run_warn]
      by_cases hs : o.strict = true
      · simp only [Outcome.judge, hs, if_true]
      · simp only [Outcome.judge, hs, run_modify]
        rfl
    · simp only [h, Bool.false_eq_true, if_false, Outcome.judge, List.append_nil]
      rfl

theorem run_sendCounter (id : TokenId) (config : CounterConfig) :
    sendCounter o id config a =
      if o.maxCounterWidth < config.bytes.toNat then
        warn o (.counterTooWide id config.bytes o.maxCounterWidth) a
      else match Counter.tick? id config a.counters with
        | some tick =>
          .ok () { a with
            buffer := a.buffer ++ tick.emitted
            counters := a.counters.set id tick.next }
        | none => warn o (.zeroWidthCounter id) a := by
  unfold sendCounter
  split
  · rfl
  · rw [run_get_bind]
    cases Counter.tick? id config a.counters <;> rfl

end Build

namespace Compiler

variable {c : Compiler} {a : Assembly}

def outcome (c : Compiler) (a : Assembly) (leaf : Leaf) : Build.Outcome :=
  match c.effect a leaf with
  | .error e => .error e a
  | .ok b =>
    Build.Outcome.judge c.options (c.warnings a leaf)
      { a with buffer := a.buffer ++ c.payload a.counters leaf } b

theorem effect_append {leaf : Leaf} (h : c.edit a leaf = .ok (.append (c.payload a.counters leaf))) :
    c.effect a leaf = .ok { a with
      buffer := a.buffer ++ c.payload a.counters leaf
      warnings := a.warnings ++ c.warnings a leaf
      counters := c.advance a.counters leaf } := by
  simp [effect, h, Except.map, after, Edit.apply, Edit.on, Edit.bytes, Edit.placement?]

theorem tick?_eq_none_iff {id : TokenId} {config : CounterConfig} {store : CounterStore} :
    Counter.tick? id config store = none ↔ config.bytes = 0 := by
  simp [Counter.tick?]

theorem outcome_fault {leaf : Leaf} {w : Warning}
    (he : c.edit a leaf = .ok (.append (c.payload a.counters leaf)))
    (hp : c.payload a.counters leaf = []) (hw : c.warnings a leaf = [w])
    (hc : c.advance a.counters leaf = a.counters) :
    c.outcome a leaf = Build.warn c.options w a := by
  rw [Build.run_warn, outcome, effect_append he]
  simp [hp, hw, hc]

theorem placeLeaf_eq (leaf : Leaf) : c.placeLeaf leaf a = c.outcome a leaf := by
  cases leaf with
  | text origin content =>
    show Build.appendHex c.options origin content a = _
    rw [Build.run_appendHex, outcome, effect_append rfl]
    rfl
  | timestamp id config =>
    rw [outcome, effect_append rfl]
    simp only [warnings, Build.Outcome.judge, List.append_nil]
    rfl
  | counter id config =>
    show Build.sendCounter c.options id config a = _
    rw [Build.run_sendCounter]
    by_cases hw : c.options.maxCounterWidth < config.bytes.toNat
    · rw [if_pos hw, outcome_fault rfl] <;> simp [payload, payload?, warnings, advance, tick?, hw]
    · rw [if_neg hw]
      cases ht : Counter.tick? id config a.counters with
      | none =>
        have h0 : config.bytes = 0 := tick?_eq_none_iff.mp ht
        refine (outcome_fault rfl ?_ ?_ ?_).symm
        · simp [payload, payload?, tick?, hw, ht]
        · simp [warnings, h0]
        · simp [advance, tick?, hw, ht]
      | some tick =>
        have h0 : config.bytes ≠ 0 := fun h => by
          rw [tick?_eq_none_iff.mpr h] at ht
          cases ht
        rw [outcome, effect_append rfl]
        simp [payload, payload?, warnings, advance, tick?, hw, h0, ht, Build.Outcome.judge]
  | checksum id config =>
    show Build.insertChecksum c.options id config a = _
    rw [Build.run_insertChecksum]
    cases hs : Checksum.Splice.of? config a.buffer with
    | none => simp [outcome, effect, edit, hs, Except.map]
    | some splice =>
      simp [outcome, effect, edit, hs, Except.map, after, warnings, payload, payload?, advance, Edit.apply,
        Edit.on, Edit.bytes, Edit.placement?, Checksum.Splice.apply, Checksum.Splice.placement]
  | unknown | dangling | recursive | tooDeep => exact (outcome_fault rfl rfl rfl rfl).symm

end Compiler

end SerialFrame
