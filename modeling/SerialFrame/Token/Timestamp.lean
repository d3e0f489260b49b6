import SerialFrame.Clock
import SerialFrame.Token.Basic

/-!
# Timestamps

The bytes of a timestamp token at an instant.
-/

namespace SerialFrame.TimestampConfig

def reading (config : TimestampConfig) (now : Clock) : Nat :=
  match config.format with
  | .seconds => now.seconds
  | .milliseconds => now.millis.toNat

/-- The timestamp as sent; of the seconds only the low 32 bits are. -/
def bytes (config : TimestampConfig) (now : Clock) : Bytes :=
  config.byteOrder.encode (config.reading now) config.format.width

def word (config : TimestampConfig) (now : Clock) : UInt64 :=
  match config.format with
  | .seconds => (now.millis / 1000) &&& 0xFFFFFFFF
  | .milliseconds => now.millis

end SerialFrame.TimestampConfig
