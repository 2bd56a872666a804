import TickMachine.Fault
import TickMachine.Text.Words
import TickMachine.Text.Upper

namespace TickMachine

structure Instruction where
  op : Op
  operands : List String
  text : String
deriving DecidableEq, Repr

namespace Instruction

def split (text : String) : Except Fault (String × List String) :=
  match Text.words text with
  | [] => .error (.unknownInstruction text)
  | command :: operands => .ok (command, operands)

def decodeJump (text : String) : List String → Except Fault Instruction
  | [] => .error (.malformed .jmp text)
  | tag :: operands =>
    match Op.ofTag? tag with
    | some op => .ok ⟨op, operands, text⟩
    | none => .error (.unknownJumpType tag)

/-- Commands are recognised in upper and lower case. -/
def decode (text : String) : Except Fault Instruction :=
  match split text with
  | .error f => .error f
  | .ok (command, operands) =>
    if Text.upper command = Op.jmp.name then decodeJump text operands
    else
      match Op.ofCommand? (Text.upper command) with
      | some op => .ok ⟨op, operands, text⟩
      | none => .error (.unknownInstruction text)

end Instruction
end TickMachine
