import SerialFrame.Command.Run
import Std.Time.DateTime.Timestamp

/-!
# The program

Commands run on the files of the system at the present time.
-/

namespace SerialFrame

instance : FileAccess IO where
  readFile path := do
    try
      return .ok (← IO.FS.readBinFile path)
    catch
      | .noFileOrDirectory .. => return .error .missing
      | _ => return .error .unreadable
  writeFile path contents := do
    try
      IO.FS.writeBinFile path contents
      return true
    catch _ =>
      return false

def Clock.now : IO Clock := do
  let now ← Std.Time.Timestamp.now
  return ⟨.ofNat now.toMillisecondsSinceUnixEpoch.val.toNat⟩

end SerialFrame

open SerialFrame in
def main (arguments : List String) : IO UInt32 := do
  let outcome : Outcome ← Command.runArguments (← Clock.now) arguments
  IO.print outcome.output
  match outcome with
  | .failed e => IO.eprintln ("Error: " ++ e.message)
  | .misused => IO.eprintln "error: the arguments make no command"
  | .done _ => pure ()
  return outcome.exitCode
