namespace TickMachine

/-- What a text says when it is read as an integer. -/
inductive Literal where
  | value (n : Int)
  /-- More digits than are converted. -/
  | oversized (digits : Nat)
  | notInteger
deriving DecidableEq, Repr

namespace Literal

/-- Longer digit strings are refused, whatever their value. -/
def maxDigits : Nat := 4300

/-- The decimal digits of a number; its sign does not count. -/
def digitCount (n : Int) : Nat := (Nat.toDigits 10 n.natAbs).length

/-- Whether a number has few enough digits to be written out. -/
def isWritable (n : Int) : Bool := digitCount n ≤ maxDigits

/-- Padding is narrower than blank: only space, tab, line feed and carriage return. -/
def isPad (c : Char) : Bool := c = ' ' || c = '\t' || c = '\n' || c = '\r'

def positional (ds : List Char) : Nat :=
  ds.foldl (fun n d => 10 * n + (d.toNat - '0'.toNat)) 0

/-- Digits, then what follows them. The number of digits is judged before the rest. -/
def ofDigits (sign : Int) (digits rest : List Char) : Literal :=
  if digits = [] then .notInteger
  else if maxDigits < digits.length then .oversized digits.length
  else if rest.all isPad then .value (sign * positional digits)
  else .notInteger

def readUnsigned (sign : Int) (cs : List Char) : Literal :=
  ofDigits sign (cs.takeWhile Char.isDigit) (cs.dropWhile Char.isDigit)

def readSigned : List Char → Literal
  | '-' :: rest => readUnsigned (-1) rest
  | '+' :: rest => readUnsigned 1 rest
  | rest => readUnsigned 1 rest

def read (s : String) : Literal := readSigned (s.toList.dropWhile isPad)

end Literal
end TickMachine
