namespace TickMachine

structure CallStack where
  /-- Return indices, innermost call first. -/
  frames : List Int
  maxDepth : Nat
deriving DecidableEq, Repr

namespace CallStack

def empty : CallStack := ⟨[], 0⟩

def depth (s : CallStack) : Nat := s.frames.length

def push (s : CallStack) (index : Int) : CallStack :=
  ⟨index :: s.frames, max s.maxDepth (s.depth + 1)⟩

def top? (s : CallStack) : Option Int := s.frames.head?

def drop (s : CallStack) : CallStack := { s with frames := s.frames.tail }

def pop? (s : CallStack) : Option (Int × CallStack) := s.top?.map fun frame => (frame, s.drop)

/-- Forgets the frames and remembers how deep they went. -/
def clear (s : CallStack) : CallStack := { s with frames := [] }

def outermostFirst (s : CallStack) : List Int := s.frames.reverse

end CallStack
end TickMachine
