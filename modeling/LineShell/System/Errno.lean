/-
This file lists the reasons for which the operating system refuses a call, each with its number
and its description.
-/

import LineShell.Text.Basic

namespace LineShell

/-- Why the operating system refuses a call. -/
inductive Errno where
  | notPermitted
  | noEntry
  | inputOutput
  | noDevice
  | argumentsTooLong
  | notExecutable
  | tryAgain
  | outOfMemory
  | accessDenied
  | notDirectory
  | isDirectory
  | fileTableFull
  | tooManyOpenFiles
  | textBusy
  | nameTooLong
  | tooManyLinks
  deriving DecidableEq, Repr

namespace Errno

/-- The number of a reason. -/
def number : Errno → Nat
  | .notPermitted => 1
  | .noEntry => 2
  | .inputOutput => 5
  | .noDevice => 6
  | .argumentsTooLong => 7
  | .notExecutable => 8
  | .tryAgain => 11
  | .outOfMemory => 12
  | .accessDenied => 13
  | .notDirectory => 20
  | .isDirectory => 21
  | .fileTableFull => 23
  | .tooManyOpenFiles => 24
  | .textBusy => 26
  | .nameTooLong => 36
  | .tooManyLinks => 40

/-- The description of a reason. -/
def description : Errno → String
  | .notPermitted => "Operation not permitted"
  | .noEntry => "No such file or directory"
  | .inputOutput => "Input/output error"
  | .noDevice => "No such device or address"
  | .argumentsTooLong => "Argument list too long"
  | .notExecutable => "Exec format error"
  | .tryAgain => "Resource temporarily unavailable"
  | .outOfMemory => "Cannot allocate memory"
  | .accessDenied => "Permission denied"
  | .notDirectory => "Not a directory"
  | .isDirectory => "Is a directory"
  | .fileTableFull => "Too many open files in system"
  | .tooManyOpenFiles => "Too many open files"
  | .textBusy => "Text file busy"
  | .nameTooLong => "File name too long"
  | .tooManyLinks => "Too many levels of symbolic links"

end Errno

end LineShell
