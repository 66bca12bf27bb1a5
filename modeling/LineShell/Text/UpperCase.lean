/-
This file upper-cases texts as far as the result can be ASCII. That is enough to compare a text
with an ASCII word: a character whose upper case is not ASCII cannot be part of the word, and
here it stays as it is, which is not ASCII either.
-/

import LineShell.Text.Basic

namespace LineShell

/-- The upper case of a glyph where it is ASCII, otherwise the glyph. Dotless i and long s have a
plain capital, sharp s and the ligatures several. -/
def Glyph.upperCase : Glyph → Text
  | .octet offset => [.octet offset]
  | .scalar character =>
    match character with
    | 'ı' => Text.of "I"
    | 'ſ' => Text.of "S"
    | 'ß' => Text.of "SS"
    | 'ﬀ' => Text.of "FF"
    | 'ﬁ' => Text.of "FI"
    | 'ﬂ' => Text.of "FL"
    | 'ﬃ' => Text.of "FFI"
    | 'ﬄ' => Text.of "FFL"
    | 'ﬅ' => Text.of "ST"
    | 'ﬆ' => Text.of "ST"
    | _ => [.scalar character.toUpper]

/-- The text in upper case. -/
def Text.upperCase (text : Text) : Text := text.flatMap Glyph.upperCase

end LineShell
