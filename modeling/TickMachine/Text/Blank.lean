namespace TickMachine.Text

def inRanges (ranges : List (Nat × Nat)) (n : Nat) : Bool :=
  ranges.any fun r => r.1 ≤ n && n ≤ r.2

/-- The separators and spaces of Unicode together with the four separator controls, ascending. -/
def blankRanges : List (Nat × Nat) :=
  [(9, 13), (28, 32), (133, 133), (160, 160), (5760, 5760), (8192, 8202), (8232, 8233),
   (8239, 8239), (8287, 8287), (12288, 12288)]

def isBlank (c : Char) : Bool := inRanges blankRanges c.toNat

def blankCodePoints : List Nat :=
  blankRanges.flatMap fun r => (List.range (r.2 + 1 - r.1)).map (r.1 + ·)

example : blankCodePoints.length = 29 := by decide

end TickMachine.Text
