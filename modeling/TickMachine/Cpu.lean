import TickMachine.Handler
import TickMachine.Failure

namespace TickMachine

structure Cpu where
  program : Program
  machine : Machine
  /-- The line that was executed last. -/
  index : Int
deriving DecidableEq, Repr

namespace Cpu

def initial : Cpu := ⟨.empty, .initial, 0⟩

def load (c : Cpu) (p : Program) : Cpu := { c with program := p }

def dumpText (c : Cpu) : String :=
  let stack := c.machine.stack
  let registers := c.machine.registers.dump.zipIdx.map fun cell =>
    "R" ++ toString cell.2 ++ ":" ++ Text.hex 0 cell.1
  let memory := c.machine.memory.dump.map (Text.hex 2)
  " ".intercalate
    (["IX:" ++ toString c.index, "SD:" ++ toString stack.depth, "SM:" ++ toString stack.maxDepth]
      ++ registers ++ ["M:" ++ " ".intercalate memory])

def dump (c : Cpu) : Signal := .debug c.dumpText

/-- A dump that is asked for from outside; no line need have been fetched at the index. -/
def requestDump (c : Cpu) : Reply Cpu Trap Unit :=
  if Literal.isWritable c.index then ⟨c, [c.dump], .ok ()⟩ else ⟨c, [], .error .unwritable⟩

def executing (i : Instruction) : Signal :=
  .debug ("Executing " ++ i.op.name ++ " " ++ " ".intercalate i.operands)

/-- Decodes and executes a statement as the one at the current index. The result is the index that
execution is redirected to. -/
def execute (c : Cpu) (text : String) : Reply Cpu Trap (Option Int) :=
  match Instruction.decode text with
  | .error f => ⟨c, [], .error (.fault f)⟩
  | .ok i =>
    let done := (i.handle c.program c.index).on c.machine
    ⟨{ c with machine := done.2 }, [executing i], done.1⟩

def decoding (text : String) (index : Int) : Signal :=
  .event ("Decoding: " ++ text ++ " at index " ++ toString index)

def remark : Except Trap (Option Int) → List Signal
  | .error (.fault f) => [.event ("Error: " ++ f.message)]
  | .error .emptyCallStack => [.event ("Error: " ++ Trap.emptyCallStack.message)]
  | .error .halt => [.event Trap.halt.message]
  | .error (.oversizedLiteral _) => []
  | .error .unwritable => []
  | .ok _ => []

/-- The index after a statement at `index`, or none when the run has to halt. Where a number has too
many digits there is neither. -/
def next (index : Int) : Except Trap (Option Int) → Except Failure (Option Int)
  | .ok target => .ok (some (target.getD (index + 1)))
  | .error (.fault _) => .ok (some (index + 1))
  | .error .emptyCallStack => .ok none
  | .error .halt => .ok none
  | .error (.oversizedLiteral digits) => .error (.trap (.oversizedLiteral digits))
  | .error .unwritable => .error (.trap .unwritable)

/-- What a step reports about a statement: the remark stands before the dump. -/
def conclude (index : Int) (text : String) (r : Reply Cpu Trap (Option Int)) :
    Reply Cpu Failure (Option Int) where
  state := r.state
  signals := decoding text index :: r.signals ++ remark r.result ++ [r.state.dump]
  result := next index r.result

def visit (c : Cpu) (text : String) : Reply Cpu Failure (Option Int) :=
  if text = "" then ⟨c, [], .ok (some (c.index + 1))⟩
  else if Line.isLabel text then ⟨c, [decoding text c.index], .ok (some (c.index + 1))⟩
  else conclude c.index text (c.execute text)

def moveTo (c : Cpu) (index : Int) : Cpu := { c with index }

/-- Executes the line at an index. The result is the next index, or none when the run halts. -/
def step (c : Cpu) (index : Int) : Reply Cpu Failure (Option Int) :=
  match c.program.lineAt index with
  | .error e => ⟨c.moveTo index, [], .error (.fetch e)⟩
  | .ok line => (c.moveTo index).visit (Text.trim line)

def inProgram (c : Cpu) (index : Int) : Bool := 0 ≤ index ∧ index < c.program.size

def follow (signals : List Signal) (next : Option Int)
    (rest : Reply Cpu Failure (Option Int × List (Option Int))) :
    Reply Cpu Failure (Option Int × List (Option Int)) where
  state := rest.state
  signals := signals ++ rest.signals
  result := rest.result.map fun r => (r.1, next :: r.2)

/-- Executes line after line, at most `limit` of them, until the run halts, leaves the program or
fails. The result is the last index and every index that a step gave. -/
def run (c : Cpu) (index : Option Int) : Nat → Reply Cpu Failure (Option Int × List (Option Int))
  | 0 => ⟨c, [], .ok (index, [])⟩
  | limit + 1 =>
    match index.filter c.inProgram with
    | none => ⟨c, [], .ok (index, [])⟩
    | some here =>
      match c.step here with
      | ⟨state, signals, .error e⟩ => ⟨state, signals, .error e⟩
      | ⟨state, signals, .ok next⟩ => follow signals next (run state next limit)

end Cpu
end TickMachine
