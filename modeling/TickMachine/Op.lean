namespace TickMachine

inductive Op where
  /-- Halts the run. -/
  | noop
  | jmp
  /-- Jumps and remembers where to come back to. -/
  | call
  | ret
  | add
  | sub
  | or
  | xor
  | and
  | not
  /-- Shifts right by one. -/
  | rsh
  /-- Sets a register to a number in the line. -/
  | imm
  /-- Loads a register from memory. -/
  | rlod
  /-- Stores a register into memory. -/
  | rstr
deriving DecidableEq, Repr

namespace Op

def all : List Op :=
  [noop, jmp, call, ret, add, sub, or, xor, and, not, rsh, imm, rlod, rstr]

def name : Op → String
  | noop => "NOOP"
  | jmp => "JMP"
  | call => "CALL"
  | ret => "RET"
  | add => "ADD"
  | sub => "SUB"
  | or => "OR"
  | xor => "XOR"
  | and => "AND"
  | not => "NOT"
  | rsh => "RSH"
  | imm => "IMM"
  | rlod => "RLOD"
  | rstr => "RSTR"

/-- The three jumps share a command and are told apart by the tag that follows it. -/
def jumpTags : List (String × Op) := [("00", jmp), ("10", call), ("01", ret)]

def commands : List (String × Op) :=
  (all.filter fun op => !(jumpTags.map Prod.snd).contains op).map fun op => (op.name, op)

def ofTag? (tag : String) : Option Op := jumpTags.lookup tag

def ofCommand? (command : String) : Option Op := commands.lookup command

theorem mem_all (op : Op) : op ∈ all := by cases op <;> decide

theorem mem_commands {command : String} {op : Op} :
    (command, op) ∈ commands ↔ command = op.name ∧ op ∉ jumpTags.map Prod.snd := by
  simp only [commands, List.mem_map, List.mem_filter]
  constructor
  · rintro ⟨op', ⟨_, hj⟩, he⟩
    cases he
    simpa using hj
  · rintro ⟨rfl, hj⟩
    exact ⟨op, ⟨mem_all op, by simpa using hj⟩, rfl⟩

end Op
end TickMachine
