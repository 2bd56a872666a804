import TickMachine.Text.UpperTable

namespace TickMachine.Text

def upperBeyondAscii (n : Nat) : List Nat :=
  match upperExpansions.lookup n with
  | some form => form
  | none =>
    match upperRuns.find? (·.covers n) with
    | some run => [(n + run.shift).toNat]
    | none => [n]

def upperChar (c : Char) : List Char :=
  if c.toNat < 128 then [c.toUpper] else (upperBeyondAscii c.toNat).map Char.ofNat

def upper (s : String) : String := String.ofList (s.toList.flatMap upperChar)

example : upper "ßıſﬅ" = "SSISST" := by decide +kernel

end TickMachine.Text
