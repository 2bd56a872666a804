import TickMachine.Decimal.Shortest

namespace TickMachine.Decimal

/-- The digits without the zeros at their end, and the place of the point: `point` digits stand
before it. -/
def significant (d : Decimal) : List Char × Int :=
  let digits := Nat.toDigits 10 d.digits
  ((digits.reverse.dropWhile (· = '0')).reverse, digits.length + d.exponent)

def zeros (n : Nat) : List Char := List.replicate n '0'

def positional (digits : List Char) (point : Int) : List Char :=
  if point ≤ 0 then '0' :: '.' :: zeros (-point).toNat ++ digits
  else if digits.length ≤ point then digits ++ zeros (point.toNat - digits.length) ++ ['.', '0']
  else digits.take point.toNat ++ '.' :: digits.drop point.toNat

def scientific (digits : List Char) (exponent : Int) : List Char :=
  let power := Nat.toDigits 10 exponent.natAbs
  let fraction := if digits.length ≤ 1 then [] else '.' :: digits.drop 1
  digits.take 1 ++ fraction ++ 'e' :: (if exponent < 0 then '-' else '+') ::
    zeros (2 - power.length) ++ power

def layout (d : Decimal) : List Char :=
  let (digits, point) := d.significant
  if -4 < point ∧ point ≤ 16 then positional digits point else scientific digits (point - 1)

def render (x : Float) : String :=
  if x.isNaN then "nan"
  else
    let magnitude :=
      if x.isInf then "inf".toList
      else if x == 0.0 then "0.0".toList
      else (Decimal.ofFloat x).layout
    String.ofList (if (Binary64.ofFloat x).negative then '-' :: magnitude else magnitude)

example : [render 0.1, render (0.1 + 0.2), render 1e16, render 1.5e-7, render 1e6, render 5e-324,
    render 2.98023223876953125e-8, render (-0.0), render 123.5, render 0.0001, render 1e22] =
    ["0.1", "0.30000000000000004", "1e+16", "1.5e-07", "1000000.0", "5e-324",
     "2.9802322387695312e-08", "-0.0", "123.5", "0.0001", "1e+22"] := by
  decide +kernel

end TickMachine.Decimal
