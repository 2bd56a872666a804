import TickMachine.Text.Printable
import TickMachine.Text.Hex

namespace TickMachine.Text

/-- Single quotes, unless the text has single quotes and no double ones. -/
def quoteFor (cs : List Char) : Char :=
  if cs.contains '\'' && !cs.contains '"' then '"' else '\''

/-- The number of a character in the shortest of the three widths that holds it. -/
def numbered (n : Nat) : List Char :=
  if n < 0x100 then '\\' :: 'x' :: hexPadded 2 n
  else if n < 0x10000 then '\\' :: 'u' :: hexPadded 4 n
  else '\\' :: 'U' :: hexPadded 8 n

def escape (quote c : Char) : List Char :=
  if c = quote || c = '\\' then ['\\', c]
  else if c = '\n' then ['\\', 'n']
  else if c = '\r' then ['\\', 'r']
  else if c = '\t' then ['\\', 't']
  else if isPrintable c then [c]
  else numbered c.toNat

def quotedChars (cs : List Char) : List Char :=
  let quote := quoteFor cs
  quote :: (cs.flatMap (escape quote) ++ [quote])

def quoted (s : String) : String := String.ofList (quotedChars s.toList)

example : quoted "it's" = "\"it's\"" ∧
    quoted "a\"'b" = "'a\"\\'b'" ∧ quoted "\n\x00é" = "'\\n\\x00é'" := by
  decide +kernel

end TickMachine.Text
