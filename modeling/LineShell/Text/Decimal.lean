/-
This file writes numbers in decimal and lists the decimal digits of all scripts: category Nd of
Unicode 14, where each script has its ten digits in a row.
-/

import LineShell.Text.Basic

namespace LineShell

/-- The digit zero of each script, in ascending order. -/
def zeroDigits : List Nat :=
  [0x30, 0x0660, 0x06F0, 0x07C0, 0x0966, 0x09E6, 0x0A66, 0x0AE6, 0x0B66, 0x0BE6, 0x0C66, 0x0CE6,
    0x0D66, 0x0DE6, 0x0E50, 0x0ED0, 0x0F20, 0x1040, 0x1090, 0x17E0, 0x1810, 0x1946, 0x19D0,
    0x1A80, 0x1A90, 0x1B50, 0x1BB0, 0x1C40, 0x1C50, 0xA620, 0xA8D0, 0xA900, 0xA9D0, 0xA9F0,
    0xAA50, 0xABF0, 0xFF10, 0x104A0, 0x10D30, 0x11066, 0x110F0, 0x11136, 0x111D0, 0x112F0,
    0x11450, 0x114D0, 0x11650, 0x116C0, 0x11730, 0x118E0, 0x11950, 0x11C50, 0x11D50, 0x11DA0,
    0x16A60, 0x16AC0, 0x16B50, 0x1D7CE, 0x1D7D8, 0x1D7E2, 0x1D7EC, 0x1D7F6, 0x1E140, 0x1E2F0,
    0x1E950, 0x1FBF0]

/-- Whether a glyph is a decimal digit of some script. -/
def Glyph.isDecimalDigit : Glyph → Bool
  | .scalar character =>
    let code := character.toNat
    zeroDigits.any fun first => first ≤ code && code < first + 10
  | .octet _ => false

/-- The value of an ASCII digit. -/
def Glyph.digit? : Glyph → Option Nat
  | .scalar character =>
    if '0' ≤ character ∧ character ≤ '9' then some (character.toNat - '0'.toNat) else none
  | .octet _ => none

namespace Text

/-- A natural number in decimal, without leading zeros. -/
def ofNat (number : Nat) : Text := (Nat.toDigits 10 number).map .scalar

/-- An integer in decimal, with a minus sign if it is negative. -/
def ofInt : Int → Text
  | .ofNat number => ofNat number
  | .negSucc number => .scalar '-' :: ofNat (number + 1)

/-- The number that a row of digits stands for. -/
def valueOf (digits : List Nat) : Nat := digits.foldl (fun value digit => value * 10 + digit) 0

end Text

end LineShell
