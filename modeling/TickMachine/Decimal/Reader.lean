import TickMachine.Text.Blank
import TickMachine.Text.DecimalDigit
import TickMachine.Literal

namespace TickMachine.Decimal

/-- Digits of any script count as digits and blanks beyond ASCII as spaces; nothing else beyond
ASCII occurs in a number. -/
def asciiChar? (c : Char) : Option Char :=
  if c.toNat < 128 then some c
  else if Text.isBlank c then some ' '
  else (Text.digitValue? c).map fun v => Char.ofNat ('0'.toNat + v)

def isMargin (c : Char) : Bool := c = ' ' || '\t'.toNat ≤ c.toNat && c.toNat ≤ '\r'.toNat

def trimMargins (cs : List Char) : List Char :=
  ((cs.dropWhile isMargin).reverse.dropWhile isMargin).reverse

/-- Takes out the underscores; each has to stand between two digits. -/
def dropUnderscores (afterDigit : Bool) : List Char → Option (List Char)
  | [] => some []
  | ['_'] => none
  | '_' :: c :: rest =>
    if afterDigit && c.isDigit then (dropUnderscores true rest).map (c :: ·) else none
  | c :: rest => (dropUnderscores c.isDigit rest).map (c :: ·)

/-- The double nearest to `digits * 10 ^ exponent`. A number of `places` digits that lies far
outside the range of doubles is zero or infinite. -/
def nearest (digits places : Nat) (exponent : Int) : Float :=
  if digits = 0 ∨ places + exponent < -400 then 0.0
  else if 400 < places + exponent then 1.0 / 0.0
  else Float.ofScientific digits (exponent < 0) exponent.natAbs

def readPower? (sign : Int) (digits : List Char) : Option Int :=
  if digits ≠ [] ∧ digits.all Char.isDigit then some (sign * Literal.positional digits) else none

def readSignedPower? : List Char → Option Int
  | '-' :: rest => readPower? (-1) rest
  | '+' :: rest => readPower? 1 rest
  | rest => readPower? 1 rest

def readExponent? : List Char → Option Int
  | [] => some 0
  | 'e' :: rest => readSignedPower? rest
  | 'E' :: rest => readSignedPower? rest
  | _ => none

def assemble? (whole fraction exponent : List Char) : Option Float :=
  let digits := whole ++ fraction
  if digits = [] then none
  else (readExponent? exponent).map fun power =>
    nearest (Literal.positional digits) (digits.dropWhile (· = '0')).length
      (power - fraction.length)

def readDecimal? (cs : List Char) : Option Float :=
  match cs.dropWhile Char.isDigit with
  | '.' :: more =>
    assemble? (cs.takeWhile Char.isDigit) (more.takeWhile Char.isDigit)
      (more.dropWhile Char.isDigit)
  | more => assemble? (cs.takeWhile Char.isDigit) [] more

def readMagnitude? (cs : List Char) : Option Float :=
  let name := cs.map Char.toLower
  if name = "inf".toList ∨ name = "infinity".toList then some (1.0 / 0.0)
  else if name = "nan".toList then some (0.0 / 0.0)
  else readDecimal? cs

def readSigned? : List Char → Option Float
  | '-' :: rest => (readMagnitude? rest).map Float.neg
  | '+' :: rest => readMagnitude? rest
  | rest => readMagnitude? rest

def read? (s : String) : Option Float := do
  let cs ← s.toList.mapM asciiChar?
  readSigned? (← dropUnderscores false (trimMargins cs))

example : ["1_000", ".5e3", " 2000. ", "-0.0", "٣.٥e١", "1e400", "-1e-400"].map
      (fun s => (read? s).map Float.toBits) =
    [1000.0, 500.0, 2000.0, -0.0, 35.0, 1.0 / 0.0, -0.0].map (fun x => some x.toBits) := by
  decide +kernel

example : ["", "1__0", "_1", "1_", "1e", "1,5", ".", "0x10", "+-1", "1 2", "é"].map read? =
    List.replicate 11 none := by
  decide +kernel

end TickMachine.Decimal
