/-
This file understands lines. A line is trimmed first, and a blank one asks for nothing. What the
line asks for is decided by its keyword, the text before the first space: the built-in commands
have keywords of their own, and with any other one the words of the line are a program and its
arguments. Only the plain space separates; other blanks inside a line belong to its words.
-/

import LineShell.Command.Basic
import LineShell.Command.ExitCode
import LineShell.Text.Blank

namespace LineShell

namespace Command

/-- The words of a line: what stands between spaces, without the empty pieces. -/
def words (line : Text) : List Text := (line.splitOn .space).filter fun word => !word.isEmpty

/-- The text in the place of the exit code: between the first space and the second. It is empty
where two spaces follow each other. -/
def codeToken (line : Text) : Option Text := (line.splitOn .space)[1]?

/-- The exit command of a trimmed line. -/
def exitOfLine (line : Text) : Except Failure Command :=
  match codeToken line with
  | none => .ok (.exit none)
  | some token => (ExitCode.read token).map .exit

/-- The command of a trimmed line that is not empty. -/
def ofTrimmed (line : Text) : Except Failure Command :=
  if Glyph.nul ∈ line then .ok (.unrecognized line)
  else
    let (keyword, rest) := line.cut .space
    if keyword = Text.of "exit" then exitOfLine line
    else if keyword = Text.of "echo" then .ok (.echo rest)
    else if keyword = Text.of "type" then .ok (.type rest)
    else if keyword = Text.of "pwd" then .ok .pwd
    else if keyword = Text.of "cd" then .ok (.cd (words line)[1]?)
    else .ok (.external keyword (words line).tail)

/-- The command of a line, if it is not blank. -/
def ofLine (line : Text) : Except Failure (Option Command) :=
  let trimmed := Text.trim line
  if trimmed = [] then .ok none else (ofTrimmed trimmed).map some

theorem ofLine_of_trim_eq_nil {line : Text} (blank : Text.trim line = []) :
    ofLine line = .ok none := by
  simp [ofLine, blank]

theorem ofLine_of_trim_ne_nil {line : Text} (notBlank : Text.trim line ≠ []) :
    ofLine line = (ofTrimmed (Text.trim line)).map some := by
  simp [ofLine, notBlank]

/-- Only what stands between the blanks at its ends matters in a line. -/
theorem ofLine_congr {first second : Text} (same : Text.trim first = Text.trim second) :
    ofLine first = ofLine second := by
  simp only [ofLine, same]

end Command

end LineShell
