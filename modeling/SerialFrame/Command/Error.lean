import SerialFrame.Frame.Error
import SerialFrame.Mode
import SerialFrame.Checksum.Algorithm

/-!
# Errors of commands
-/

namespace SerialFrame

inductive CommandError
  | io (path : String)
  | parse (path what : String)
  | invalidArgument (what value : String)
  | unknownMode (e : Mode.Unknown)
  | unknownAlgorithm (e : Checksum.Algorithm.Unknown)
  | hex (defect : Hex.Defect)
  | frame (e : FrameError)
  deriving DecidableEq, Repr

def CommandError.message : CommandError → String
  | io path => path ++ ": cannot be read or written"
  | parse path what => path ++ ": invalid " ++ what ++ ": "
  | invalidArgument what value => "invalid " ++ what ++ ": " ++ Text.quoted value
  | unknownMode e => e.message
  | unknownAlgorithm e => e.message
  | hex defect => defect.message
  | frame e => e.message

end SerialFrame
