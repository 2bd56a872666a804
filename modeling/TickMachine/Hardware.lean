namespace TickMachine

namespace Hardware

def registerCount : Nat := 8

def memorySize : Nat := 16

def byteMask : Nat := 255

/-- A line that starts with this character declares a label. -/
def labelMarker : Char := '.'

/-- The display keeps this many events unless told otherwise. -/
def logCapacity : Nat := 16

def rateMin : Nat := 1

def rateMax : Nat := 2000

def defaultRate : Nat := rateMin

/-- Indices and capacities are signed numbers of 64 bits, which lie below this. -/
def indexLimit : Int := 0x8000000000000000

/-- Seconds that the host sleeps between two ticks. -/
def frameTime : Float := 0.001

end Hardware

inductive BankKind where
  | plain
  | registers
  | memory
deriving DecidableEq, Repr

def BankKind.placeName : BankKind → String
  | .plain => "index"
  | .registers => "register index"
  | .memory => "memory address"

end TickMachine
