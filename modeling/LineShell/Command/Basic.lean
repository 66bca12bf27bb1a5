/-
This file defines the commands of the shell: what a line asks for once it is understood. A
command never changes after it is made, and an external command carries its program's name only
once, so the name and the first argument cannot disagree.
-/

import LineShell.Failure

namespace LineShell

/-- What a line asks for. -/
inductive Command where
  /-- Leave the shell, with the code if one was given and could be read. -/
  | exit (code : Option Int)
  /-- Write a text. -/
  | echo (text : Text)
  /-- Tell what a name stands for. -/
  | type (target : Text)
  /-- Tell the working directory. -/
  | pwd
  /-- Change the working directory. -/
  | cd (path : Option Text)
  /-- Run a program with arguments after its name. -/
  | external (program : Text) (arguments : List Text)
  /-- Nothing that the shell understands. -/
  | unrecognized (line : Text)
  deriving DecidableEq, Repr

namespace Command

/-- The names of the built-in commands. The list has `help`, although no command answers to it. -/
def builtinNames : List Text :=
  [Text.of "exit", Text.of "help", Text.of "echo", Text.of "type", Text.of "pwd", Text.of "cd"]

/-- The status of an exit code: zero where there is none. -/
def exitStatus (code : Option Int) : Int := code.getD 0

/-- The name of the home directory in a change of directory. -/
def homeName : Text := Text.of "~"

/-- Whether a change of directory goes home. -/
def targetsHome (path : Option Text) : Bool := path = none ∨ path = some homeName

/-- The external command with all its arguments, the program's name first. No arguments at all
stand for the name alone. -/
def ofArguments (program : Text) (arguments : List Text) : Except Failure Command :=
  match arguments with
  | [] => .ok (.external program [])
  | first :: rest =>
    if first = program then .ok (.external program rest) else .error .programMismatch

/-- A change of a field, which every command refuses. -/
def assign (_command : Command) (field : Text) : Except Failure Command :=
  .error (.fixedField field)

/-! ### The written form of a command -/

/-- A value that may be absent, in the written form of what holds it. -/
def written {α : Type} (write : α → Text) : Option α → Text
  | none => Text.of "None"
  | some value => write value

/-- A command written with the names and values of its fields. -/
def describe : Command → Text
  | .exit code => Text.of "ExitCommand(code=" ++ written Text.ofInt code ++ Text.of ")"
  | .echo text => Text.of "EchoCommand(text=" ++ Text.quoted text ++ Text.of ")"
  | .type target => Text.of "TypeCommand(target=" ++ Text.quoted target ++ Text.of ")"
  | .pwd => Text.of "PwdCommand()"
  | .cd path => Text.of "CdCommand(path=" ++ written Text.quoted path ++ Text.of ")"
  | .external program arguments =>
    Text.of "ExternalCommand(program=" ++ Text.quoted program ++ Text.of ", argv=" ++
      Text.quotedList (program :: arguments) ++ Text.of ")"
  | .unrecognized line =>
    Text.of "UnrecognizedCommand(line=" ++ Text.quoted line ++ Text.of ")"

theorem ofArguments_cons_self (program : Text) (rest : List Text) :
    ofArguments program (program :: rest) = .ok (.external program rest) := by
  simp [ofArguments]

end Command

end LineShell
