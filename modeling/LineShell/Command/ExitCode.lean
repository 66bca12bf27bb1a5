/-
This file reads exit codes. The form of a code is a number in groups of ASCII digits, with a
single underscore between one group and the next and perhaps a plus sign in front. A code is a
number in this form that is not above the largest status.
-/

import LineShell.Failure

namespace LineShell

namespace ExitCode

/-- The largest status that a program can end with. -/
def largest : Nat := 255

/-- The text after a plus sign, if it has one in front. -/
def afterSign : Text → Text
  | .scalar '+' :: rest => rest
  | text => text

/-- The groups of digits of a text. -/
def groups (token : Text) : List Text := (afterSign token).splitOn (.scalar '_')

/-- Whether a text has the form of an exit code. -/
def wellFormed (token : Text) : Bool :=
  (groups token).all fun group => !group.isEmpty && group.all fun glyph => glyph.digit?.isSome

/-- All digits of a text, the groups put together. -/
def digits (token : Text) : List Nat := (groups token).flatten.filterMap Glyph.digit?

/-- The exit code that a text stands for, if it stands for one. The digits are counted before
anything is made of them, leading zeros too. -/
def read (token : Text) : Except Failure (Option Int) :=
  if wellFormed token then
    if Failure.digitLimit < (digits token).length then
      .error (.tooManyDigits (digits token).length)
    else
      let value := Text.valueOf (digits token)
      .ok (if value ≤ largest then some value else none)
  else .ok none

/-- A text in another form is no code, however long it is. -/
theorem read_of_not_wellFormed {token : Text} (other : wellFormed token = false) :
    read token = .ok none := by
  simp [read, other]

end ExitCode

end LineShell
