import TickMachine.Decimal.Binary64

namespace TickMachine

inductive Number where
  | int (n : Int)
  | real (x : Float)
deriving DecidableEq

/-- A place on the number line, in units of the least positive double. -/
inductive Height where
  | below
  | at (units : Int)
  | above
deriving DecidableEq

def Height.lt : Height → Height → Bool
  | .at m, .at n => m < n
  | .below, .at _ => true
  | .below, .above => true
  | .at _, .above => true
  | _, _ => false

namespace Number

/-- NaN has no place on the line. -/
def height? : Number → Option Height
  | .int n => some (.at (n * Binary64.unitsPerOne))
  | .real x =>
    let b := Binary64.ofFloat x
    if x.isNaN then none
    else if x.isInf then some (if b.negative then .below else .above)
    else some (.at b.units)

/-- Strictly smaller, by exact value; false when one of the two is NaN. -/
def lt (a b : Number) : Bool :=
  match a.height?, b.height? with
  | some h, some k => h.lt k
  | _, _ => false

/-- The second number only if it is strictly larger. -/
def max (a b : Number) : Number := if a.lt b then b else a

def min (a b : Number) : Number := if b.lt a then b else a

/-- Integers from here on round past the largest double. -/
def floatLimit : Nat := 1 <<< 1024 - 1 <<< 970

/-- The nearest double; an integer that rounds past the largest double has none. -/
def toFloat? : Number → Option Float
  | .int n => if n.natAbs < floatLimit then some (Float.ofInt n) else none
  | .real x => some x

end Number
end TickMachine
