/-
This file tells how a program ended. A program ends with an exit code, or is killed by a signal;
the code that the operating system reports is negative in the second case.
-/

import LineShell.Command.Basic

namespace LineShell

/-- How a program ended. -/
structure Outcome where
  exitCode : Option Int
  signal : Option Int
  deriving DecidableEq, Repr

namespace Outcome

/-- The outcome that a reported code stands for. -/
def ofCode (code : Int) : Outcome :=
  if code < 0 then ⟨none, some (-code)⟩ else ⟨some code, none⟩

/-- Whether the program came to its own end. -/
def isNormal (outcome : Outcome) : Bool := outcome.signal.isNone && outcome.exitCode.isSome

/-- What the user is told about the outcome. A program that ended with code zero is not
mentioned. -/
def statusMessage (outcome : Outcome) : Option Text :=
  match outcome.signal, outcome.exitCode with
  | none, some code =>
    if code = 0 then none
    else some (Text.of "Program exited with non-zero status code: " ++ Text.ofInt code)
  | _, _ => some (Text.of "Program terminated abnormally")

/-- An outcome written with the names and values of its fields. -/
def describe (outcome : Outcome) : Text :=
  Text.of "ProcessOutcome(exit_code=" ++ Command.written Text.ofInt outcome.exitCode ++
    Text.of ", signal=" ++ Command.written Text.ofInt outcome.signal ++ Text.of ")"

/-- Nothing is said exactly about a program that ended with code zero. -/
theorem statusMessage_ofCode_eq_none_iff (code : Int) :
    (ofCode code).statusMessage = none ↔ code = 0 := by
  by_cases negative : code < 0
  · have other : code ≠ 0 := by omega
    simp [ofCode, statusMessage, negative, other]
  · simp [ofCode, statusMessage, negative]

end Outcome

end LineShell
