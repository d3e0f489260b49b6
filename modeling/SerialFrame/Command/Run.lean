import SerialFrame.Command.Checksum
import SerialFrame.Command.Line
import SerialFrame.Command.Report

/-!
# Running commands
-/

namespace SerialFrame

def release : String := "0.3.0"

inductive Outcome
  | done (lines : List String)
  | failed (e : CommandError)
  /-- The arguments make no command. -/
  | misused
  deriving DecidableEq, Repr

namespace Outcome

def exitCode : Outcome → UInt32
  | done _ => 0
  | failed _ => 1
  | misused => 2

def output : Outcome → String
  | done lines => String.join (lines.map (· ++ "\n"))
  | failed _ => ""
  | misused => ""

end Outcome

namespace Command

variable {m : Type → Type} [Monad m] [FileAccess m]

def runCompile (arguments : CompileArguments) (now : Clock) : m Outcome := do
  match Mode.parse arguments.mode with
  | .error e => return .failed (.unknownMode e)
  | .ok mode =>
    let job : CompileJob :=
      { project := arguments.project, mode, state := arguments.state, reset := arguments.reset
        strict := arguments.strict, output := arguments.output }
    match ← (job.execute now).run with
    | .error e => return .failed e
    | .ok report =>
      return .done (if arguments.format = "json" then [report.toJson.pretty] else report.lines)

def run (now : Clock) : Command → m Outcome
  | .compile arguments => runCompile arguments now
  | .checksum algorithm hex byteOrder =>
    match ChecksumReport.compute algorithm hex byteOrder with
    | .ok report => return .done report.lines
    | .error e => return .failed e
  | .version => return .done ["framesmith CLI v" ++ release, "framesmith core v" ++ release]
  | .programVersion => return .done ["framesmith " ++ release]
  | .help =>
    return .done ["Usage: framesmith [-v] compile PROJECT [-m MODE] [-s STATE] [--reset] [--strict]"
      ++ " [-o OUTPUT] [-f FORMAT] | checksum ALGORITHM HEX... [-b ORDER] | version"]

def runArguments (now : Clock) (arguments : List String) : m Outcome :=
  match ofArguments? false arguments with
  | some command => command.run now
  | none => return .misused

end Command

end SerialFrame
