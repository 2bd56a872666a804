import TickMachine.Failure
import TickMachine.Hardware

namespace TickMachine

/-- A log that keeps its most recent lines; without a capacity it keeps them all. -/
structure LogBuffer where
  capacity : Option Nat
  lines : List String
deriving DecidableEq, Repr

inductive CapacityError where
  | negative
  /-- The capacity has more than 64 bits. -/
  | tooWide
deriving DecidableEq, Repr

def CapacityError.message : CapacityError → String
  | .negative => "maxlen must be non-negative"
  | .tooWide => "Python int too large to convert to C ssize_t"

namespace LogBuffer

def empty (capacity : Option Nat) : LogBuffer := ⟨capacity, []⟩

def checkCapacity (capacity : Int) : Except CapacityError Nat :=
  if capacity < -Hardware.indexLimit ∨ Hardware.indexLimit ≤ capacity then .error .tooWide
  else if capacity < 0 then .error .negative
  else .ok capacity.toNat

def keep (capacity : Option Nat) (lines : List String) : List String :=
  match capacity with
  | none => lines
  | some n => lines.drop (lines.length - n)

def append (b : LogBuffer) (line : String) : LogBuffer :=
  { b with lines := keep b.capacity (b.lines ++ [line]) }

def size (b : LogBuffer) : Nat := b.lines.length

def text (b : LogBuffer) : String := "\n".intercalate b.lines

end LogBuffer

structure Display where
  /-- Whether all that is shown also goes to the journal. -/
  journaled : Bool
  registers : List Int
  memory : List Int
  events : LogBuffer
deriving DecidableEq, Repr

namespace Display

def blank (journaled : Bool) (capacity : Option Nat) : Display :=
  ⟨journaled, [], [], .empty capacity⟩

def column (name : String) (values : List Int) : String :=
  "\n".intercalate (values.zipIdx.map fun (v, i) => name ++ toString i ++ ": " ++ toString v)

/-- A column of numbers that may be too long to be written out. -/
def columnOf (name : String) (values : List Int) : Except Trap String :=
  if values.all Literal.isWritable then .ok (column name values) else .error .unwritable

def registerText (values : List Int) : String := column "R" values

def memoryText (values : List Int) : String := column "Addr " values

def registerLine (values : List Int) : String :=
  " ".intercalate (values.zipIdx.map fun (v, i) => "R" ++ toString i ++ ":" ++ Text.hex 2 v)

def memoryLine (values : List Int) : String :=
  " ".intercalate (values.zipIdx.map fun (v, i) => Text.hex 0 i ++ ":" ++ Text.hex 2 v)

def accept (d : Display) : Signal → Display
  | .event message => { d with events := d.events.append message }
  | .record _ => d
  | .registers values => { d with registers := values }
  | .memory values => { d with memory := values }

/-- What a signal leaves in the journal when this display receives it. -/
def journal (d : Display) : Signal → List Record
  | .event message => if d.journaled then [⟨.info, message⟩] else []
  | .record r => [r]
  | .registers values => if d.journaled then [⟨.debug, registerLine values⟩] else []
  | .memory values => if d.journaled then [⟨.debug, memoryLine values⟩] else []

def acceptAll (d : Display) (signals : List Signal) : Display := signals.foldl accept d

def journalAll (d : Display) (signals : List Signal) : List Record := signals.flatMap d.journal

def stateText (d : Display) : String :=
  registerText d.registers ++ "\n" ++ memoryText d.memory ++ "\n"

@[simp]
theorem accept_journaled (d : Display) (s : Signal) : (d.accept s).journaled = d.journaled := by
  cases s <;> rfl

theorem acceptAll_append (d : Display) (s t : List Signal) :
    d.acceptAll (s ++ t) = (d.acceptAll s).acceptAll t := List.foldl_append

@[simp]
theorem acceptAll_journaled (d : Display) (signals : List Signal) :
    (d.acceptAll signals).journaled = d.journaled := by
  induction signals generalizing d with
  | nil => rfl
  | cons s _ ih => exact (ih (d.accept s)).trans (accept_journaled d s)

end Display

/-- Where signals go: to a display, or nowhere. -/
inductive Sink where
  | display (d : Display)
  /-- Nothing stands behind the sink, and it takes no signal meant for a display. -/
  | disconnected

def Sink.accept : Sink → Signal → Except Failure Sink
  | .display d, s => .ok (.display (d.accept s))
  | .disconnected, .record _ => .ok .disconnected
  | .disconnected, _ => .error .disconnected

end TickMachine
