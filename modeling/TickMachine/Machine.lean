import TickMachine.Bank
import TickMachine.CallStack

namespace TickMachine

structure Machine where
  registers : Bank
  memory : Bank
  stack : CallStack
deriving DecidableEq, Repr

namespace Machine

def initial : Machine where
  registers := .zeroed .registers Hardware.registerCount
  memory := .zeroed .memory Hardware.memorySize
  stack := .empty

/-- Clears the cells and the stack; the greatest depth stays. -/
def reset (m : Machine) : Machine where
  registers := m.registers.clear
  memory := m.memory.clear
  stack := m.stack.clear

def setRegister (m : Machine) (index value : Int) : Except Trap Machine :=
  (fun registers => { m with registers }) <$> m.registers.set index value

def setMemory (m : Machine) (index value : Int) : Except Trap Machine :=
  (fun memory => { m with memory }) <$> m.memory.set index value

def push (m : Machine) (index : Int) : Machine := { m with stack := m.stack.push index }

end Machine
end TickMachine
