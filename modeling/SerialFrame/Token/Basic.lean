import SerialFrame.Bytes.Order
import SerialFrame.Checksum.Algorithm
import SerialFrame.Template

/-!
# Tokens

A token is a named part of a frame that is worked out when the frame is compiled. Segments only
refer to tokens, so that one token can stand in several places.
-/

namespace SerialFrame

structure ChecksumConfig where
  algorithm : String
  startIndex : UInt64 := 0
  /-- Where the covered bytes end, counted from the end of the frame: `-k` is `k` bytes before it,
  and any other number is the end itself. -/
  endIndex : Int64 := 0
  byteOrder : Option ByteOrder := none
  deriving DecidableEq, Repr

inductive TimestampFormat
  | seconds
  | milliseconds
  deriving DecidableEq, Repr, Inhabited

namespace TimestampFormat

def name : TimestampFormat → String
  | seconds => "seconds"
  | milliseconds => "milliseconds"

def ofName? : String → Option TimestampFormat
  | "seconds" => some seconds
  | "milliseconds" => some milliseconds
  | _ => none

theorem ofName?_name (format : TimestampFormat) : ofName? format.name = some format := by
  cases format <;> rfl

def width : TimestampFormat → Nat
  | seconds => 4
  | milliseconds => 8

end TimestampFormat

structure TimestampConfig where
  format : TimestampFormat := .seconds
  byteOrder : ByteOrder := .big
  deriving DecidableEq, Repr

structure CounterConfig where
  bytes : UInt64
  /-- The first value as hex text; blank text counts as none. -/
  currentValue : Option String := none
  /-- The first value if there is no current one, and the value after a reset. -/
  defaultValue : String := ""
  step : UInt64 := 1
  deriving DecidableEq, Repr

def CounterConfig.seed (config : CounterConfig) : String :=
  match config.currentValue with
  | some value => if value.toList.all Text.isBlank then config.defaultValue else value
  | none => config.defaultValue

inductive TokenKind
  | checksum (config : ChecksumConfig)
  | flag (hex : String)
  | timestamp (config : TimestampConfig)
  | counter (config : CounterConfig)
  | container (children : Template)
  /-- A kind that this version does not know; it contributes nothing. -/
  | unknown
  deriving DecidableEq

def TokenKind.name : TokenKind → String
  | checksum _ => "checksum"
  | flag _ => "flag"
  | timestamp _ => "timestamp"
  | counter _ => "autoIncrement"
  | container _ => "hex"
  | unknown => "unknown"

structure Token where
  id : TokenId
  name : String := ""
  kind : TokenKind
  deriving DecidableEq

def Token.counter? (t : Token) : Option CounterConfig :=
  match t.kind with
  | .counter config => some config
  | _ => none

def Token.children? (t : Token) : Option Template :=
  match t.kind with
  | .container children => some children
  | _ => none

end SerialFrame
