import TickMachine.Hardware
import TickMachine.Op
import TickMachine.Literal

namespace TickMachine

inductive Fault where
  /-- An operand is missing. -/
  | malformed (op : Op) (text : String)
  | notInteger (bank : BankKind) (token : String)
  | outOfBank (bank : BankKind) (index : Int)
  | badImmediate (token : String)
  /-- A jump to what is neither a label nor an integer. -/
  | unresolved (target : String)
  | unknownInstruction (text : String)
  | unknownJumpType (tag : String)
deriving DecidableEq, Repr

inductive FaultKind where
  | invalidOperand
  | unresolvedTarget
  | unknownInstruction
deriving DecidableEq, Repr

namespace Fault

def kind : Fault → FaultKind
  | malformed .. | notInteger .. | outOfBank .. | badImmediate _ => .invalidOperand
  | unresolved _ => .unresolvedTarget
  | unknownInstruction _ | unknownJumpType _ => .unknownInstruction

def message : Fault → String
  | malformed op text => op.name ++ " instruction is malformed: " ++ text
  | notInteger bank token => "Invalid " ++ bank.placeName ++ " " ++ token
  | outOfBank bank index => "Invalid " ++ bank.placeName ++ " " ++ toString index
  | badImmediate token => "Invalid immediate value in IMM instruction: " ++ token
  | unresolved target => "Invalid address or label: " ++ target
  | unknownInstruction text => "Unknown or invalid instruction: " ++ text
  | unknownJumpType tag => "Unknown jump type in JMP: " ++ tag

end Fault

/-- Why the execution of an instruction was cut short. -/
inductive Trap where
  | fault (f : Fault)
  /-- A return with no call to return from. -/
  | emptyCallStack
  | halt
  /-- An integer with too many digits to be converted. -/
  | oversizedLiteral (digits : Nat)
  /-- A number with too many digits to stand in a message. -/
  | unwritable
deriving DecidableEq, Repr

/-- The limit on digits, with what a message says of a number that goes beyond it. -/
def Trap.beyondLimit (finding : String) : String :=
  "Exceeds the limit (" ++ toString Literal.maxDigits ++ " digits) for integer string conversion" ++
    finding ++ "; use sys.set_int_max_str_digits() to increase the limit"

def Trap.message : Trap → String
  | .fault f => f.message
  | .emptyCallStack => "Call stack is empty, cannot return."
  | .halt => "Program finished because of NOOP."
  | .oversizedLiteral digits => beyondLimit (": value has " ++ toString digits ++ " digits")
  | .unwritable => beyondLimit ""

end TickMachine
