import SerialFrame.Bytes.Basic
import SerialFrame.Bytes.Lemmas
import SerialFrame.Bytes.Order
import SerialFrame.Checksum.Algorithm
import SerialFrame.Checksum.Register
import SerialFrame.Checksum.Serial
import SerialFrame.Proofs.Checksum.Register
import SerialFrame.Proofs.Checksum.Serial
import SerialFrame.Proofs.Checksum.Residue
import SerialFrame.Proofs.Checksum.Burst
import SerialFrame.Checksum.Splice
import SerialFrame.Clock
import SerialFrame.Command.Arguments
import SerialFrame.Command.Checksum
import SerialFrame.Command.Compile
import SerialFrame.Command.Error
import SerialFrame.Command.Line
import SerialFrame.Command.Report
import SerialFrame.Command.Run
import SerialFrame.Counter.Store
import SerialFrame.Counter.Tick
import SerialFrame.Counter.Value
import SerialFrame.Files.Access
import SerialFrame.Files.Tree
import SerialFrame.Format.Counters
import SerialFrame.Format.Fields
import SerialFrame.Format.Project
import SerialFrame.Format.Segment
import SerialFrame.Format.Token
import SerialFrame.Frame.Assembly
import SerialFrame.Frame.Compiler
import SerialFrame.Frame.Description
import SerialFrame.Frame.Error
import SerialFrame.Frame.Expansion
import SerialFrame.Hex.Digit
import SerialFrame.Hex.Exact
import SerialFrame.Hex.Lenient
import SerialFrame.Hex.Render
import SerialFrame.Id
import SerialFrame.Id.Random
import SerialFrame.IdMap
import SerialFrame.IdMap.Lemmas
import SerialFrame.Json.Admissible
import SerialFrame.Json.Magnitude
import SerialFrame.Json.Parser
import SerialFrame.Json.Printer
import SerialFrame.Json.Value
import SerialFrame.Main
import SerialFrame.Mode
import SerialFrame.Options
import SerialFrame.Project
import SerialFrame.Random.Generator
import SerialFrame.Random.Strategy
import SerialFrame.Sample.Projects
import SerialFrame.Sample.Strategies
import SerialFrame.Sample.Survey
import SerialFrame.Sample.Vectors
import SerialFrame.Segment
import SerialFrame.Template
import SerialFrame.Text.Blank
import SerialFrame.Text.GraphemeExtend
import SerialFrame.Text.Quoted
import SerialFrame.Text.Ranges
import SerialFrame.Text.Unprintable
import SerialFrame.Token.Basic
import SerialFrame.Token.Table
import SerialFrame.Token.Timestamp
import SerialFrame.Warning
import SerialFrame.Frame.Edit
import SerialFrame.Proofs.Frame.Expansion
import SerialFrame.Proofs.Frame.Run
import SerialFrame.Proofs.Frame.Verification
import SerialFrame.Proofs.Frame.Conservation
import SerialFrame.Proofs.Frame.Strictness
import SerialFrame.Proofs.Bytes.Number
import SerialFrame.Proofs.Counter.Value
import SerialFrame.Frame.Session
import SerialFrame.Proofs.Frame.Session
import SerialFrame.Proofs.Frame.Depth
import SerialFrame.Proofs.Frame.Inlining
import SerialFrame.Frame.Walk
import SerialFrame.Proofs.Frame.Termination
import SerialFrame.Frame.Reference
import SerialFrame.Proofs.Frame.Reference
import SerialFrame.Json.Layout
import SerialFrame.Proofs.Json.Strings
import SerialFrame.Proofs.Json.Numbers
import SerialFrame.Proofs.Json.RoundTrip
import SerialFrame.Proofs.Json.Admissible
import SerialFrame.Proofs.Format.Fields
import SerialFrame.Proofs.Format.Segment
import SerialFrame.Proofs.Format.Token
import SerialFrame.Proofs.Format.Project
import SerialFrame.Proofs.Format.Counters
import SerialFrame.Command.Delivery
import SerialFrame.Proofs.Command.Compile
import SerialFrame.Proofs.Command.Delivery
import SerialFrame.Proofs.Hex.Lenient
import SerialFrame.Proofs.Frame.Mode
import SerialFrame.Proofs.Frame.Uses
import SerialFrame.Proofs.Frame.Alike
import SerialFrame.Proofs.Frame.Composition
import SerialFrame.Proofs.Frame.Noninterference
import SerialFrame.Proofs.Frame.Refusal
import SerialFrame.Frame.Trace
import SerialFrame.Proofs.Frame.Accounting
import SerialFrame.Proofs.Frame.Limits
import SerialFrame.Proofs.Frame.Normalization
import SerialFrame.Proofs.Frame.Trailer
import SerialFrame.Proofs.Command.Checksum
import SerialFrame.Word
import SerialFrame.Counter.Checked
import SerialFrame.Checksum.Checked
import SerialFrame.Proofs.Counter.Checked
import SerialFrame.Proofs.Checksum.Placing
import SerialFrame.Proofs.Frame.Emission
import SerialFrame.Proofs.Frame.Reset
import SerialFrame.Proofs.Frame.Seed
import SerialFrame.Template.InPlace
import SerialFrame.Proofs.Template.Building
import SerialFrame.Hex.Collected
import SerialFrame.Proofs.Hex.Digit
import SerialFrame.Proofs.Hex.Agreement
import SerialFrame.Proofs.Format.Canonical
import SerialFrame.Bytes.Words
import SerialFrame.Proofs.Bytes.Integers
import SerialFrame.Proofs.Files.Tree
import SerialFrame.Proofs.Command.Tree
