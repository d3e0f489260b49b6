import SerialFrame.Hex.Digit

/-!
# Writing bytes as hex text

Two forms, both with upper-case digits: `spaced` puts one space between bytes, for people, and
`compact` puts none, for files.
-/

namespace SerialFrame.Hex

def digitPair (b : UInt8) : List Char :=
  [digit (highNibble b), digit (lowNibble b)]

def compactChars (bytes : Bytes) : List Char :=
  bytes.flatMap digitPair

def spacedChars : Bytes → List Char
  | [] => []
  | [b] => digitPair b
  | b :: rest => digitPair b ++ ' ' :: spacedChars rest

def compact (bytes : Bytes) : String :=
  String.ofList (compactChars bytes)

/-- The bytes as hex text, one space between bytes. -/
def spaced (bytes : Bytes) : String :=
  String.ofList (spacedChars bytes)

end SerialFrame.Hex
