import SerialFrame.Counter.Value
import SerialFrame.Hex.Exact
import SerialFrame.Token.Table

/-!
# Counter stores

The live values of counters are kept apart from the tokens. A compile takes a store and gives back
the advanced one; a counter without a stored value starts from what its token says.
-/

namespace SerialFrame

structure CounterStore where
  values : IdMap Bytes
  deriving DecidableEq, Repr

namespace CounterStore

/-- The widest counter that is sent or reset unless the options say otherwise, in bytes. -/
def widestByDefault : Nat := 32

def empty : CounterStore := ⟨.empty⟩

instance : Inhabited CounterStore := ⟨empty⟩

def get? (s : CounterStore) (id : TokenId) : Option Bytes :=
  s.values.get? id

def set (s : CounterStore) (id : TokenId) (value : Bytes) : CounterStore :=
  ⟨s.values.insert id value⟩

def setHex (s : CounterStore) (id : TokenId) (hex : String) : Except Hex.Defect CounterStore :=
  (Hex.readExact hex).map (s.set id)

def forget (s : CounterStore) (id : TokenId) : CounterStore :=
  ⟨s.values.erase id⟩

/-- Puts a counter back to its default value; one that is too wide is forgotten. -/
def reset (s : CounterStore) (id : TokenId) (config : CounterConfig) : CounterStore :=
  if widestByDefault < config.bytes.toNat then s.forget id
  else s.set id (Counter.ofText config.defaultValue config.bytes.toNat)

def resetAll (s : CounterStore) (tokens : TokenTable) : CounterStore :=
  tokens.tokens.foldl
    (fun s token =>
      match token.counter? with
      | some config => s.reset token.id config
      | none => s)
    s

def size (s : CounterStore) : Nat :=
  s.values.size

def isEmpty (s : CounterStore) : Bool :=
  s.values.isEmpty

end CounterStore

end SerialFrame
