/-
This file names everything that can keep an action of the shell from its normal end, and gives
each cause its wording. A refusal is what a call to the operating system answers when it does not
do what was asked; the other causes come from the shell itself or from running a program. Leaving
the shell is one of the causes, because it too ends whatever is under way.
-/

import LineShell.Journal
import LineShell.System.Errno
import LineShell.Text.Decimal
import LineShell.Text.Quoted

namespace LineShell

/-! ### Refusals -/

/-- The answer of a call that the operating system refuses. -/
inductive Refusal where
  /-- A known reason, with the path it is about if there is one. -/
  | known (errno : Errno) (path : Option Text)
  /-- A reason told in words, with a number and perhaps a path. -/
  | told (number reason : Text) (path : Option Text)
  /-- A message without a reason. -/
  | unexplained (message : Text)
  deriving DecidableEq, Repr

namespace Refusal

/-- A numbered reason, and the path it is about, on one line. -/
def numbered (number reason : Text) (path : Option Text) : Text :=
  Text.of "[Errno " ++ number ++ Text.of "] " ++ reason ++
    match path with
    | none => []
    | some path => Text.of ": " ++ Text.quoted path

/-- The refusal on one line. -/
def message : Refusal → Text
  | .known errno path => numbered (Text.ofNat errno.number) (Text.of errno.description) path
  | .told number reason path => numbered number reason path
  | .unexplained message => message

/-- The reason by itself. -/
def reason? : Refusal → Option Text
  | .known errno _ => some (Text.of errno.description)
  | .told _ reason _ => some reason
  | .unexplained _ => none

/-- What the user is told: the reason, or the whole refusal where there is no reason to tell. -/
def explanation (refusal : Refusal) : Text :=
  match refusal.reason? with
  | some (glyph :: rest) => glyph :: rest
  | _ => refusal.message

/-- A known refusal is explained by the description of its reason. -/
theorem explanation_known (errno : Errno) (path : Option Text) :
    (known errno path).explanation = Text.of errno.description := by
  cases errno <;> rfl

end Refusal

/-! ### Mishaps -/

/-- What can go wrong in running a program besides a refusal. -/
inductive Mishap where
  /-- It was given an improper value. -/
  | improperValue (message : Text)
  /-- It broke down. -/
  | malfunction (message : Text)
  /-- The user interrupted it. -/
  | interrupted (message : Text)
  deriving DecidableEq, Repr

/-- The message that comes with a mishap. -/
def Mishap.message : Mishap → Text
  | .improperValue message => message
  | .malfunction message => message
  | .interrupted message => message

/-! ### Failures -/

/-- Why an action does not come to its normal end. -/
inductive Failure where
  /-- The shell is to be left with this status. -/
  | exit (status : Int)
  /-- No directory of the search path holds the program. -/
  | programNotFound (name : Text)
  /-- The program was found and could not be run. -/
  | launchFailed (reason : Text)
  /-- The operating system refused a call. -/
  | refused (refusal : Refusal)
  /-- A text for the operating system holds the character that would end it. -/
  | embeddedNul
  /-- An exit code has more digits than a number may have. -/
  | tooManyDigits (count : Nat)
  /-- The log level is none of the known ones. -/
  | unknownLevel (value : Text)
  /-- There is no text to show as the prompt. -/
  | noPrompt
  /-- The first argument of an external command is not the program's name. -/
  | programMismatch
  /-- Something that is no command was to be carried out. -/
  | notCommand (value : Text)
  /-- A field of a command was to be changed. -/
  | fixedField (name : Text)
  /-- Running a program went wrong. -/
  | mishap (cause : Mishap)
  deriving DecidableEq, Repr

namespace Failure

/-- The largest number of digits that an exit code may have. -/
def digitLimit : Nat := 4300

/-- The wording of a failure. -/
def message : Failure → Text
  | .exit status => Text.of "exit requested with status " ++ Text.ofInt status
  | .programNotFound name => name ++ Text.of ": command not found"
  | .launchFailed reason => reason
  | .refused refusal => refusal.message
  | .embeddedNul => Text.of "embedded null byte"
  | .tooManyDigits count =>
    Text.of "Exceeds the limit (" ++ Text.ofNat digitLimit ++
      Text.of " digits) for integer string conversion: value has " ++ Text.ofNat count ++
      Text.of " digits; use sys.set_int_max_str_digits() to increase the limit"
  | .unknownLevel value =>
    Text.of "Invalid log level " ++ Text.quoted value ++
      Text.of "; expected one of " ++
      (Text.of ", ").intercalate (Level.all.map fun level => Text.of level.name)
  | .noPrompt => Text.of "write() argument must be str, not list"
  | .programMismatch => Text.of "argv[0] must be the program name"
  | .notCommand value => Text.of "Unsupported command: " ++ Text.quoted value
  | .fixedField name => Text.of "cannot assign to field " ++ Text.quoted name
  | .mishap cause => cause.message

end Failure

end LineShell
