namespace TickMachine

structure Binary64 where
  negative : Bool
  biased : Nat
  fraction : Nat
deriving DecidableEq, Repr

namespace Binary64

def ofFloat (x : Float) : Binary64 :=
  let bits := x.toBits.toNat
  ⟨1 <<< 63 ≤ bits, (bits >>> 52) % (1 <<< 11), bits % (1 <<< 52)⟩

def mantissa (b : Binary64) : Nat := if b.biased = 0 then b.fraction else 1 <<< 52 + b.fraction

/-- The gap to the next double away from zero, in units. -/
def gap (b : Binary64) : Nat := 1 <<< (b.biased - 1)

def magnitude (b : Binary64) : Nat := b.mantissa * b.gap

def units (b : Binary64) : Int := if b.negative then -(b.magnitude : Int) else b.magnitude

def unitsPerOne : Nat := 1 <<< 1074

example : (ofFloat 1.0).units = unitsPerOne := by decide +kernel

example : (ofFloat (-0.5)).units * 2 = -unitsPerOne := by decide +kernel

end Binary64
end TickMachine
