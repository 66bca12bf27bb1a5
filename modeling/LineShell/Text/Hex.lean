/-
This file writes numbers as lower-case hexadecimal digits of a fixed width, the form that escapes
use for characters and bytes.
-/

import LineShell.Text.Basic

namespace LineShell

/-- The digit of a value below sixteen. -/
def hexDigit (value : Nat) : Char :=
  if value < 10 then Char.ofNat ('0'.toNat + value) else Char.ofNat ('a'.toNat + (value - 10))

/-- The last hexadecimal digits of a number, as many as asked for. -/
def hexDigits : Nat → Nat → Text
  | 0, _ => []
  | width + 1, value => hexDigits width (value / 16) ++ [.scalar (hexDigit (value % 16))]

end LineShell
