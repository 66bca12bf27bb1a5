/-
This file turns what stands on the input into the lines that the shell reads. A byte stream is read
as text, in which a line ends at a line feed, a carriage return or the two together. The ends are
looked for in the text and not in the bytes, since bytes that are left out of the text do not part a
carriage return from its line feed. A text that was decoded elsewhere ends its lines at line feeds
only. What follows the last end is one more line if there is any text in it.
-/

import LineShell.Text.Utf8

namespace LineShell

/-- How a stream treats bytes that are no character: it stops at them or is lenient. -/
inductive Handling where
  | strict
  | lenient (leniency : Leniency)
  deriving DecidableEq, Repr

/-- The leniency that the shell uses a stream with. A strict stream is made to preserve every
byte, and any other keeps its own way. -/
def Handling.relaxed : Handling → Leniency
  | .strict => .preserve
  | .lenient leniency => leniency

namespace Input

/-- The line feed. -/
def lineFeed : Glyph := .scalar '\n'

/-- The carriage return. -/
def carriageReturn : Glyph := .scalar '\r'

/-- The lines that end in a text, without their ends, and the remainder after the last. -/
structure Cut where
  lines : List Text
  remainder : Text
  deriving DecidableEq, Repr

/-- One more empty line in front. -/
def Cut.startLine (cut : Cut) : Cut := { cut with lines := [] :: cut.lines }

/-- One more glyph at the start of the first line, or of the remainder where there is no line. -/
def Cut.startWith (glyph : Glyph) (cut : Cut) : Cut :=
  match cut.lines with
  | [] => ⟨[], glyph :: cut.remainder⟩
  | line :: lines => ⟨(glyph :: line) :: lines, cut.remainder⟩

/-- A text cut at its line ends. -/
def cutLines : Text → Cut
  | [] => ⟨[], []⟩
  | glyph :: rest =>
    if glyph = lineFeed then (cutLines rest).startLine
    else if glyph = carriageReturn then
      match rest with
      | [] => ⟨[[]], []⟩
      | next :: after =>
        if next = lineFeed then (cutLines after).startLine else (cutLines (next :: after)).startLine
    else (cutLines rest).startWith glyph

/-- Lines, and the remainder as a last line unless it is empty. -/
def withRemainder (lines : List Text) (remainder : Text) : List Text :=
  if remainder = [] then lines else lines ++ [remainder]

/-- The lines of a byte stream. -/
def ofBytes (handling : Handling) (bytes : List UInt8) : List Text :=
  let cut := cutLines (Text.decode handling.relaxed bytes)
  withRemainder cut.lines cut.remainder

/-- Whether a glyph is a line feed or a carriage return. -/
def isLineEnd (glyph : Glyph) : Bool := glyph = lineFeed ∨ glyph = carriageReturn

/-- The lines of a decoded text. Carriage returns at the end of a line go with its line feed. -/
def ofText (text : Text) : List Text :=
  let parts := text.splitOn lineFeed
  (withRemainder parts.dropLast (parts.getLastD [])).map (Text.dropEndWhile isLineEnd)

end Input

end LineShell
