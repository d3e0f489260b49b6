import SerialFrame.Counter.Tick
import SerialFrame.Proofs.Bytes.Number

/-!
# The arithmetic of counters

As numbers, counters are cut to a width, read from text and advanced modulo `256 ^ width`:
`value_fitWidth`, `value_ofText` and `value_advance`. So a counter that starts at `start` goes through
the terms `CounterConfig.nth` of an arithmetic progression.
-/

namespace SerialFrame

namespace Counter

open Nat (ofDigits)

theorem map_fit {α β : Type} (f : α → β) (zero : α) (items : List α) (width : Nat) :
    (fit zero items width).map f = fit (f zero) (items.map f) width := by
  simp only [fit, List.map_append, List.map_replicate, List.map_drop, List.length_map]

/-- Cutting off the high places, or putting zeros in front, takes a number modulo a power of its
base. -/
theorem ofDigits_fit {base : Nat} {digits : List Nat} (hbase : 0 < base)
    (hdigits : ∀ d ∈ digits, d < base) (width : Nat) :
    ofDigits base (fit 0 digits width).reverse = ofDigits base digits.reverse % base ^ width := by
  have hreverse : ∀ d ∈ digits.reverse, d < base := fun d hd => hdigits d (List.mem_reverse.mp hd)
  rw [fit, List.reverse_append, List.reverse_replicate, Nat.ofDigits_append_replicate_zero,
    ← List.take_reverse, Nat.ofDigits_mod_pow_eq_ofDigits_take width hbase _ hreverse]

theorem length_fitWidth (value : Bytes) (width : Nat) : (fitWidth value width).length = width :=
  length_fit 0 value width

theorem value_fitWidth (value : Bytes) (width : Nat) :
    (fitWidth value width).value = value.value % 256 ^ width := by
  rw [Bytes.value_eq_ofDigits, Bytes.value_eq_ofDigits, fitWidth, map_fit]
  exact ofDigits_fit (by decide) (fun _ => Bytes.lt_of_mem_digits) width

variable {text : String} {width : Nat}

theorem length_ofText (h : 2 * width < UInt64.size) : (ofText text width).length = width := by
  rw [ofText, if_pos h, Hex.length_pack, length_fit, Nat.mul_div_cancel_left width (by decide)]

theorem value_ofText (h : 2 * width < UInt64.size) :
    (ofText text width).value = Hex.number text % 256 ^ width := by
  have hnibbles : ∀ d ∈ (text.toList.filterMap Hex.nibble?).map Fin.val, d < 16 := by
    intro d hd
    obtain ⟨n, -, rfl⟩ := List.mem_map.mp hd
    exact n.isLt
  have hpow : 256 ^ width = 16 ^ (2 * width) := by rw [Nat.pow_mul]
  rw [ofText, if_pos h, Hex.value_pack (length_fit ..), Hex.number, Hex.value_eq_ofDigits,
    Hex.value_eq_ofDigits, map_fit, hpow]
  exact ofDigits_fit (by decide) hnibbles (2 * width)

theorem addCarry_cons (b : UInt8) (value : Bytes) (carry : Nat) :
    addCarry (b :: value) carry =
      (UInt8.ofNat (b.toNat + (addCarry value carry).2) :: (addCarry value carry).1,
        (b.toNat + (addCarry value carry).2) / 256) := rfl

theorem length_addCarry (value : Bytes) (carry : Nat) :
    (addCarry value carry).1.length = value.length := by
  induction value with
  | nil => rfl
  | cons b value ih =>
    rw [addCarry_cons, List.length_cons, List.length_cons, ih]

/-- What is carried out of the highest byte is all that is missing from the sum. -/
theorem value_addCarry (value : Bytes) (carry : Nat) :
    (addCarry value carry).1.value + (addCarry value carry).2 * 256 ^ value.length =
      value.value + carry := by
  induction value with
  | nil => simp [addCarry, Bytes.value]
  | cons b value ih =>
    have hlength := length_addCarry value carry
    rw [addCarry_cons]
    dsimp only
    rw [Bytes.value_cons, Bytes.value_cons, hlength, List.length_cons, UInt8.toNat_ofNat',
      show 2 ^ 8 = 256 from rfl, Nat.pow_succ]
    generalize (addCarry value carry).2 = out at ih ⊢
    generalize (addCarry value carry).1.value = low at ih ⊢
    have hsplit : (b.toNat + out) % 256 + 256 * ((b.toNat + out) / 256) = b.toNat + out :=
      Nat.mod_add_div _ _
    calc (b.toNat + out) % 256 * 256 ^ value.length + low +
          (b.toNat + out) / 256 * (256 ^ value.length * 256)
        = ((b.toNat + out) % 256 + 256 * ((b.toNat + out) / 256)) * 256 ^ value.length + low := by
          ring
      _ = b.toNat * 256 ^ value.length + (low + out * 256 ^ value.length) := by
          rw [hsplit]
          ring
      _ = b.toNat * 256 ^ value.length + Bytes.value value + carry := by
          rw [ih, Nat.add_assoc]

theorem length_advance (value : Bytes) (step : UInt64) :
    (advance value step).length = value.length :=
  length_addCarry value step.toNat

theorem value_advance (value : Bytes) (step : UInt64) :
    (advance value step).value = (value.value + step.toNat) % 256 ^ value.length := by
  have hlt := Bytes.value_lt (advance value step)
  rw [length_advance] at hlt
  have hsum : (advance value step).value + (addCarry value step.toNat).2 * 256 ^ value.length =
      value.value + step.toNat := value_addCarry value step.toNat
  rw [← hsum, Nat.add_mul_mod_self_right, Nat.mod_eq_of_lt hlt]

end Counter

/-- The counter `n` steps after the number `start`, as it is sent. -/
def CounterConfig.nth (config : CounterConfig) (start n : Nat) : Bytes :=
  ByteOrder.big.encode (start + n * config.step.toNat) config.bytes.toNat

namespace Counter

def start (id : TokenId) (config : CounterConfig) (store : CounterStore) : Nat :=
  match store.get? id with
  | some value => value.value
  | none => Hex.number config.seed

variable {id : TokenId} {config : CounterConfig} {store : CounterStore} {v n : Nat}

theorem length_nth : (config.nth v n).length = config.bytes.toNat :=
  ByteOrder.length_encode ..

theorem value_nth : (config.nth v n).value = (v + n * config.step.toNat) % 256 ^ config.bytes.toNat :=
  ByteOrder.decode_encode .big _ _

theorem fitWidth_eq_encode (value : Bytes) (width : Nat) :
    fitWidth value width = ByteOrder.big.encode value.value width :=
  Bytes.eq_encode (length_fitWidth ..) (value_fitWidth ..)

theorem fitWidth_eq_self {value : Bytes} {width : Nat} (h : value.length = width) :
    fitWidth value width = value := by
  rw [fitWidth, fit, h, Nat.sub_self]
  rfl

theorem fitWidth_nth : fitWidth (config.nth v n) config.bytes.toNat = config.nth v n :=
  fitWidth_eq_self length_nth

theorem advance_nth : advance (config.nth v n) config.step = config.nth v (n + 1) := by
  refine Bytes.eq_encode ((length_advance ..).trans length_nth) ?_
  rw [value_advance, length_nth, value_nth, Nat.mod_add_mod, Nat.succ_mul, Nat.add_assoc]

theorem current_of_stored (h : store.get? id = some (config.nth v n)) :
    current id config store = config.nth v n := by
  rw [current, h]
  exact fitWidth_nth

theorem current_start (hbits : 2 * config.bytes.toNat < UInt64.size) :
    current id config store = config.nth (start id config store) 0 := by
  rw [CounterConfig.nth, Nat.zero_mul, Nat.add_zero, current, start]
  cases store.get? id with
  | some value => exact fitWidth_eq_encode ..
  | none => exact Bytes.eq_encode (length_ofText hbits) (value_ofText hbits)

end Counter

end SerialFrame
