namespace TickMachine.Text

def hexPadded (width n : Nat) : List Char :=
  let digits := Nat.toDigits 16 n
  List.replicate (width - digits.length) '0' ++ digits

/-- Upper-case digits with zeros in front up to a width; a sign stands first and counts in the
width. -/
def hex (width : Nat) (v : Int) : String :=
  let digits := fun w => (hexPadded w v.natAbs).map Char.toUpper
  String.ofList (if v < 0 then '-' :: digits (width - 1) else digits width)

example : [hex 0 0, hex 0 255, hex 2 7, hex 2 (-1), hex 2 (-10), hex 2 (-16), hex 2 4096] =
    ["0", "FF", "07", "-1", "-A", "-10", "1000"] := by decide +kernel

end TickMachine.Text
