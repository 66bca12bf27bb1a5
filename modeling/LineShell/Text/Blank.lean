/-
This file lists the blank characters and trims them from the ends of a text. They are the
Unicode characters of bidirectional class WS, B or S together with the space separators: more
than the ASCII blanks, and a stray byte is never one of them.
-/

import LineShell.Text.Basic

namespace LineShell

/-- The blank code points, as ranges with both ends included. -/
def blankRanges : List (Nat × Nat) :=
  [(0x09, 0x0D), (0x1C, 0x20), (0x85, 0x85), (0xA0, 0xA0), (0x1680, 0x1680), (0x2000, 0x200A),
    (0x2028, 0x2029), (0x202F, 0x202F), (0x205F, 0x205F), (0x3000, 0x3000)]

/-- Whether a code point lies in one of the ranges. -/
def inRanges (ranges : List (Nat × Nat)) (code : Nat) : Bool :=
  ranges.any fun range => range.1 ≤ code && code ≤ range.2

/-- Whether a glyph is blank. -/
def Glyph.isBlank : Glyph → Bool
  | .scalar character => inRanges blankRanges character.toNat
  | .octet _ => false

namespace Text

/-- The text without the blanks at its end. -/
def trimEnd (text : Text) : Text := text.dropEndWhile Glyph.isBlank

/-- The text without the blanks at its start and at its end. -/
def trim (text : Text) : Text := trimEnd (text.dropWhile Glyph.isBlank)

end Text

end LineShell
