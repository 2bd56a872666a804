import TickMachine.Instruction
import TickMachine.Machine
import TickMachine.Program

namespace TickMachine

/-- Work on a machine that may be cut short by a trap. -/
abbrev Work := ExceptT Trap (StateM Machine)

namespace Work

def on {α : Type} (w : Work α) (m : Machine) : Except Trap α × Machine := (ExceptT.run w).run m

def getRegister (index : Int) : Work Nat := do
  return (← (← get).registers.get index).toNat

def setRegister (index value : Int) : Work Unit := do
  set (← (← get).setRegister index value)

def getMemory (index : Int) : Work Nat := do
  return (← (← get).memory.get index).toNat

def setMemory (index value : Int) : Work Unit := do
  set (← (← get).setMemory index value)

def push (index : Int) : Work Unit := modify (·.push index)

def pop : Work Int := do
  let m ← get
  match m.stack.pop? with
  | some (frame, stack) => set { m with stack }; return frame
  | none => throw .emptyCallStack

end Work

def Bank.locate (b : Bank) (token : String) : Except Trap Nat :=
  match Literal.read token with
  | .value index => b.check index
  | .oversized digits => .error (.oversizedLiteral digits)
  | .notInteger => .error (.fault (.notInteger b.kind token))

def Literal.number (token : String) : Except Trap Int :=
  match Literal.read token with
  | .value v => .ok v
  | .oversized digits => .error (.oversizedLiteral digits)
  | .notInteger => .error (.fault (.badImmediate token))

namespace Instruction

def operand (i : Instruction) (n : Nat) : Except Trap String :=
  match i.operands[n]? with
  | some token => .ok token
  | none => .error (.fault (.malformed i.op i.text))

def place (i : Instruction) (b : Bank) (n : Nat) : Except Trap Nat := do b.locate (← i.operand n)

def immediate (i : Instruction) (n : Nat) : Except Trap Int := do Literal.number (← i.operand n)

def target (i : Instruction) (p : Program) (n : Nat) : Except Trap Int := do
  p.resolve (← i.operand n)

def register (i : Instruction) (n : Nat) : Work Nat := do i.place (← get).registers n

def address (i : Instruction) (n : Nat) : Work Nat := do i.place (← get).memory n

def combine (i : Instruction) (f : Nat → Nat → Int) : Work (Option Int) := do
  let a ← i.register 0
  let b ← i.register 1
  let c ← i.register 2
  let x ← Work.getRegister a
  let y ← Work.getRegister b
  Work.setRegister c (f x y)
  return none

/-- Works off an instruction of the line at `index`. The result is where execution goes on, if not
at the next line. -/
def handle (i : Instruction) (p : Program) (index : Int) : Work (Option Int) :=
  match i.op with
  | .noop => throw .halt
  | .jmp => do return some (← i.target p 0)
  | .call => do
    let target ← i.target p 0
    Work.push (index + 1)
    return some target
  | .ret => do return some (← Work.pop)
  | .add => i.combine fun a b => b + a
  | .sub => i.combine fun a b => b - a
  | .or => i.combine fun a b => (a ||| b : Nat)
  | .xor => i.combine fun a b => (a ^^^ b : Nat)
  | .and => i.combine fun a b => (a &&& b : Nat)
  | .not => do
    let a ← i.register 0
    let x ← Work.getRegister a
    Work.setRegister a (-(x : Int) - 1)
    return none
  | .rsh => do
    let a ← i.register 0
    let b ← i.register 1
    Work.setRegister b ((← Work.getRegister a) >>> 1 : Nat)
    return none
  | .imm => do
    let a ← i.register 0
    Work.setRegister a (← i.immediate 1)
    return none
  | .rlod => do
    let a ← i.register 0
    let n ← i.address 1
    Work.setRegister a (← Work.getMemory n)
    return none
  | .rstr => do
    let a ← i.register 0
    let n ← i.address 1
    Work.setMemory n (← Work.getRegister a)
    return none

end Instruction
end TickMachine
