import FiveStage.Assembly.Assembler
import FiveStage.Assembly.Error
import FiveStage.Assembly.Label
import FiveStage.Assembly.Line
import FiveStage.Assembly.Mnemonic
import FiveStage.Assembly.Source
import FiveStage.Assembly.Statement
import FiveStage.CommandLine.Argument
import FiveStage.CommandLine.Session
import FiveStage.Config.Basic
import FiveStage.Config.Reader
import FiveStage.Datapath.Access
import FiveStage.Datapath.Alu
import FiveStage.Datapath.Branch
import FiveStage.Datapath.Control
import FiveStage.Isa.Encoding
import FiveStage.Isa.Immediate
import FiveStage.Isa.Instruction
import FiveStage.Isa.Opcode
import FiveStage.Isa.Operation
import FiveStage.Isa.Register
import FiveStage.Isa.Word
import FiveStage.Json.Field
import FiveStage.Json.Token
import FiveStage.Json.Value
import FiveStage.Log.Directive
import FiveStage.Log.Event
import FiveStage.Log.Filter
import FiveStage.Log.Level
import FiveStage.Log.Trace
import FiveStage.Machine.DataMemory
import FiveStage.Machine.Fault
import FiveStage.Machine.Meaning
import FiveStage.Machine.Program
import FiveStage.Machine.RegisterFile
import FiveStage.Machine.Sequential
import FiveStage.Main
import FiveStage.Pattern.Basic
import FiveStage.Pattern.Bracket
import FiveStage.Pattern.Escape
import FiveStage.Pattern.WellFormed
import FiveStage.Pipeline.Core
import FiveStage.Pipeline.Hazard
import FiveStage.Pipeline.Latch
import FiveStage.Pipeline.Stage
import FiveStage.Pipeline.Statistics
import FiveStage.Pipeline.Tick
import FiveStage.Proofs.Assembly.Encoding
import FiveStage.Proofs.Assembly.Filler
import FiveStage.Proofs.Assembly.Listing
import FiveStage.Proofs.Assembly.Loading
import FiveStage.Proofs.Assembly.Meaning
import FiveStage.Proofs.Assembly.Operands
import FiveStage.Proofs.Assembly.Placement
import FiveStage.Proofs.Assembly.Printing
import FiveStage.Proofs.Assembly.Relisting
import FiveStage.Proofs.Isa.Canonical
import FiveStage.Proofs.Isa.Decoding
import FiveStage.Proofs.Isa.Encoded
import FiveStage.Proofs.Isa.Fields
import FiveStage.Proofs.Isa.Format
import FiveStage.Proofs.Isa.Holding
import FiveStage.Proofs.Isa.RegisterName
import FiveStage.Proofs.Machine.Effect
import FiveStage.Proofs.Machine.Fetch
import FiveStage.Proofs.Machine.Memory
import FiveStage.Proofs.Machine.Run
import FiveStage.Proofs.Machine.Units
import FiveStage.Proofs.Pipeline.Accounting
import FiveStage.Proofs.Pipeline.Alone
import FiveStage.Proofs.Pipeline.Bypass
import FiveStage.Proofs.Pipeline.Coherence
import FiveStage.Proofs.Pipeline.Cycle
import FiveStage.Proofs.Pipeline.Datapath
import FiveStage.Proofs.Pipeline.Freshness
import FiveStage.Proofs.Pipeline.Halting
import FiveStage.Proofs.Pipeline.Operands
import FiveStage.Proofs.Pipeline.Outcome
import FiveStage.Proofs.Pipeline.Position
import FiveStage.Proofs.Pipeline.Retirement
import FiveStage.Proofs.Pipeline.Schedule
import FiveStage.Proofs.Pipeline.Status
import FiveStage.Proofs.Pipeline.Timing
import FiveStage.Proofs.Pipeline.Tracking
import FiveStage.Proofs.Pipeline.WrongPath
import FiveStage.Proofs.Simulator.Forward
import FiveStage.Proofs.Simulator.LargerMemory
import FiveStage.Proofs.Simulator.Limit
import FiveStage.Proofs.Simulator.Preload
import FiveStage.Proofs.Simulator.Setup
import FiveStage.Proofs.Simulator.Verdict
import FiveStage.Proofs.Text.RoundTrip
import FiveStage.Report
import FiveStage.Simulator
import FiveStage.Text.Alphanumeric
import FiveStage.Text.Blank
import FiveStage.Text.Bytes
import FiveStage.Text.Decimal
import FiveStage.Text.Document
import FiveStage.Text.FixedPoint
import FiveStage.Text.Numeral
import FiveStage.Text.WordChar
