import SerialFrame.Hex.Exact
import SerialFrame.Warning

/-!
# Errors

Why there is no frame.
-/

namespace SerialFrame

inductive FrameError
  | hex (defect : Hex.Defect)
  | unsupportedAlgorithm (token : TokenId) (name : String)
  /-- A warning was raised and the options are strict. -/
  | degraded (warning : Warning)
  deriving DecidableEq, Repr

def FrameError.message : FrameError → String
  | hex defect => "codec error: " ++ defect.message
  | unsupportedAlgorithm token name =>
    "checksum token " ++ token.text ++ " uses unsupported algorithm " ++ Text.quoted name
  | degraded warning => "degraded frame rejected in strict mode: " ++ warning.message

end SerialFrame
