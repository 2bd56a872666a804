import TickMachine.Decimal.Binary64

namespace TickMachine

/-- The number `digits * 10 ^ exponent`. -/
structure Decimal where
  digits : Nat
  exponent : Int
deriving DecidableEq, Repr

/-- A positive double with the reals that round to it, as quarters of a unit. A tie between two
doubles rounds to the even one, which is when the ends belong to the span. -/
structure RoundingSpan where
  low : Nat
  value : Nat
  high : Nat
  closed : Bool

namespace RoundingSpan

def quartersPerOne : Nat := 4 * Binary64.unitsPerOne

/-- The double below a power of two is nearer than the double above it. -/
def ofBinary64 (b : Binary64) : RoundingSpan :=
  let below := if b.fraction = 0 ∧ 1 < b.biased then 1 else 2
  { low := (4 * b.mantissa - below) * b.gap
    value := 4 * b.magnitude
    high := (4 * b.mantissa + 2) * b.gap
    closed := b.mantissa % 2 = 0 }

/-- The decimal rounds to the double of this span. -/
def contains (s : RoundingSpan) (d : Decimal) : Bool :=
  let x := d.digits * Nat.pow 10 d.exponent.toNat * quartersPerOne
  let scale := Nat.pow 10 (-d.exponent).toNat
  let low := s.low * scale
  let high := s.high * scale
  (low < x || s.closed && low = x) && (x < high || s.closed && x = high)

def digitCount (n : Nat) : Nat := if n = 0 then 0 else (Nat.toDigits 10 n).length

/-- The least `k` with the value below `10 ^ k`. -/
def scale (s : RoundingSpan) : Int :=
  let whole := s.value / quartersPerOne
  if whole = 0 then 1 - (digitCount ((quartersPerOne - 1) / s.value) : Int) else digitCount whole

/-- The nearest of the value's two neighbours on the grid of `10 ^ k` that reads back, the even one
on a tie. -/
def onGrid (s : RoundingSpan) (k : Int) : Option Decimal :=
  let num := s.value * Nat.pow 10 (-k).toNat
  let den := quartersPerOne * Nat.pow 10 k.toNat
  let below : Decimal := ⟨num / den, k⟩
  let above : Decimal := ⟨num / den + 1, k⟩
  let twice := 2 * (num % den)
  match s.contains below, s.contains above with
  | true, true => some (if twice < den ∨ twice = den ∧ below.digits % 2 = 0 then below else above)
  | true, false => some below
  | false, true => some above
  | false, false => none

/-- Grids get finer until one has a decimal that reads back; the exact value stands behind them. -/
def shortest (s : RoundingSpan) : Decimal :=
  ((List.range 17).findSome? fun (n : Nat) => s.onGrid (s.scale - n - 1)).getD
    ⟨s.value * Nat.pow 5 1076, -1076⟩

end RoundingSpan

def Decimal.ofFloat (x : Float) : Decimal := (RoundingSpan.ofBinary64 (.ofFloat x)).shortest

example : Decimal.ofFloat 0.1 = ⟨1, -1⟩ := by decide +kernel

end TickMachine
