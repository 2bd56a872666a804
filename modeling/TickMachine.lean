import TickMachine.Bank
import TickMachine.CallStack
import TickMachine.CommandLine.Command
import TickMachine.CommandLine.Host
import TickMachine.CommandLine.Options
import TickMachine.CommandLine.Path
import TickMachine.Cpu
import TickMachine.Decimal.Binary64
import TickMachine.Decimal.Layout
import TickMachine.Decimal.Reader
import TickMachine.Decimal.Shortest
import TickMachine.Display
import TickMachine.Failure
import TickMachine.Fault
import TickMachine.Handler
import TickMachine.Hardware
import TickMachine.Instruction
import TickMachine.Literal
import TickMachine.Machine
import TickMachine.Main
import TickMachine.Number
import TickMachine.Op
import TickMachine.Program
import TickMachine.Proofs.Assignment
import TickMachine.Proofs.Atomicity
import TickMachine.Proofs.BankHistory
import TickMachine.Proofs.CallReturn
import TickMachine.Proofs.ClosedLoop
import TickMachine.Proofs.Deadline
import TickMachine.Proofs.Declarations
import TickMachine.Proofs.Effect
import TickMachine.Proofs.Escape
import TickMachine.Proofs.FailedStart
import TickMachine.Proofs.FileText
import TickMachine.Proofs.Grammar
import TickMachine.Proofs.LabelIndex
import TickMachine.Proofs.LabelJump
import TickMachine.Proofs.Layout
import TickMachine.Proofs.Lifetime
import TickMachine.Proofs.LoadLine
import TickMachine.Proofs.Loop
import TickMachine.Proofs.NumberLine
import TickMachine.Proofs.Numeral
import TickMachine.Proofs.Operands
import TickMachine.Proofs.Printout
import TickMachine.Proofs.Rate
import TickMachine.Proofs.RateRange
import TickMachine.Proofs.Renewal
import TickMachine.Proofs.Report
import TickMachine.Proofs.ReturnAddress
import TickMachine.Proofs.RunState
import TickMachine.Proofs.Shape
import TickMachine.Proofs.Shown
import TickMachine.Proofs.Slot
import TickMachine.Proofs.Spacing
import TickMachine.Proofs.Step
import TickMachine.Proofs.Termination
import TickMachine.Proofs.Turns
import TickMachine.Proofs.Watching
import TickMachine.Rate
import TickMachine.Scheduler
import TickMachine.Session
import TickMachine.Signal
import TickMachine.Source
import TickMachine.Text.Blank
import TickMachine.Text.DecimalDigit
import TickMachine.Text.Hex
import TickMachine.Text.Newline
import TickMachine.Text.Printable
import TickMachine.Text.Quoted
import TickMachine.Text.Upper
import TickMachine.Text.UpperTable
import TickMachine.Text.Words
import TickMachine.Utf8
