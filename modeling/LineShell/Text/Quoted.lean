/-
This file quotes texts for messages and logs, so that the quoted form stays on one line and shows
every glyph: unprintable ones are escaped by their number, a stray byte by the code point that
stands for it.
-/

import LineShell.Text.Hex
import LineShell.Text.Printable

namespace LineShell

/-- The mark around a quoted text: a single quote, or a double one where only that avoids an
escape. -/
def quoteMark (text : Text) : Glyph :=
  if .scalar '\'' ∈ text ∧ .scalar '"' ∉ text then .scalar '"' else .scalar '\''

/-- The number of an unprintable code point, in as few digits as its size asks for. -/
def escapeCode (code : Nat) : Text :=
  if code < 0x100 then Text.of "\\x" ++ hexDigits 2 code
  else if code < 0x10000 then Text.of "\\u" ++ hexDigits 4 code
  else Text.of "\\U" ++ hexDigits 8 code

/-- One glyph inside a quoted text. -/
def Glyph.quoted (mark : Glyph) : Glyph → Text
  | .octet offset => escapeCode (0xDC80 + offset.val)
  | .scalar character =>
    if .scalar character = mark ∨ character = '\\' then [.scalar '\\', .scalar character]
    else if character = '\t' then Text.of "\\t"
    else if character = '\n' then Text.of "\\n"
    else if character = '\r' then Text.of "\\r"
    else if (Glyph.scalar character).isPrintable then [.scalar character]
    else escapeCode character.toNat

namespace Text

/-- The text between quotes. -/
def quoted (text : Text) : Text :=
  let mark := quoteMark text
  mark :: text.flatMap (Glyph.quoted mark) ++ [mark]

/-- A list of texts in square brackets, each of them quoted. -/
def quotedList (texts : List Text) : Text :=
  of "[" ++ (of ", ").intercalate (texts.map quoted) ++ of "]"

end Text

end LineShell
