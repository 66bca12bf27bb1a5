/-
This file carries commands out. Every command but the one that leaves the shell comes to its
normal end whatever it meets: what goes wrong is told to the user in one line. Only failures of
the operating system that no command expects go through.
-/

import LineShell.Command.Parser
import LineShell.Console.Basic
import LineShell.Launch

namespace LineShell

open LineShell.Action

/-- The variable that holds the path of the home directory. -/
def homeVariable : Text := Text.of "HOME"

/-- Change the working directory, and note where it is now. If that cannot be told the change
counts as failed, although it has happened. -/
def changeDirectory (path : Text) : Action Unit := do
  enterDirectory path
  let directory ← workingDirectory
  note .debug (Text.of "Working directory changed to " ++ directory)

/-- What the user is told about a name that is no program. -/
def commandNotFound (name : Text) : Text := name ++ Text.of ": command not found"

namespace Evaluation

/-- Leave the shell. -/
def exit (code : Option Int) : Action Unit := do
  let status := Command.exitStatus code
  note .info (Text.of "Exit requested with status " ++ Text.ofInt status)
  fail (.exit status)

/-- Tell what a name stands for. -/
def type (console : Console) (target : Text) : Action Unit := do
  let name := Text.trim target
  if name = [] then give ()
  else if name ∈ Command.builtinNames then
    console.writeLine (name ++ Text.of " is a shell builtin")
  else
    match ← resolve name with
    | none => console.writeLine (name ++ Text.of ": not found")
    | some path => console.writeLine (name ++ Text.of " is " ++ path)

/-- Tell the working directory. -/
def pwd (console : Console) : Action Unit := do
  match ← attempt workingDirectory with
  | .ok directory => console.writeLine directory
  | .error failure =>
    note .warning (Text.of "Cannot read working directory: " ++ failure.message)
    console.writeLine (Text.of "pwd: error retrieving current directory")

/-- Go to a directory. -/
def goTo (console : Console) (target : Text) : Action Unit := do
  match ← attempt (changeDirectory target) with
  | .ok () => give ()
  | .error (.refused refusal) =>
    note .info (Text.of "cd to " ++ target ++ Text.of " failed: " ++ refusal.message)
    console.writeLine (Text.of "cd: " ++ target ++ Text.of ": No such file or directory")
  | .error failure => fail failure

/-- The directory that a change of directory is to go to, if there is one. An empty home counts
as none. -/
def cdTarget (environment : Environment) (path : Option Text) : Option Text :=
  if Command.targetsHome path then (environment homeVariable).filter fun home => !home.isEmpty
  else path

/-- Change the working directory. -/
def cd (console : Console) (path : Option Text) : Action Unit := do
  let world ← look
  match cdTarget world.environment path with
  | none => console.writeLine (Text.of "cd: HOME not set")
  | some target => goTo console target

/-- Tell how a run ended, if there is anything to tell. -/
def report (console : Console) (program : Text) : Except Failure Outcome → Action Unit
  | .ok outcome =>
    match outcome.statusMessage with
    | none => give ()
    | some message => console.writeLine message
  | .error (.programNotFound _) => console.writeLine (commandNotFound program)
  | .error (.launchFailed reason) => console.writeLine (program ++ Text.of ": " ++ reason)
  | .error failure => fail failure

/-- Run a program in the working directory, or where the shell is if the directory cannot be
told. What the console holds back is shown before, since the program writes past the console. -/
def external (console : Console) (program : Text) (arguments : List Text) : Action Unit := do
  match ← resolve program with
  | none => console.writeLine (commandNotFound program)
  | some _ =>
    let directory := (← look).directoryPath.toOption
    console.flush
    let outcome ← attempt (run (program :: arguments) directory)
    report console program outcome

end Evaluation

/-- Carry out a command. -/
def Command.evaluate (console : Console) : Command → Action Unit
  | .exit code => Evaluation.exit code
  | .echo text => console.writeLine text
  | .type target => Evaluation.type console target
  | .pwd => Evaluation.pwd console
  | .cd path => Evaluation.cd console path
  | .external program arguments => Evaluation.external console program arguments
  | .unrecognized line => console.writeLine (commandNotFound line)

/-- The refusal to carry out something that is no command. -/
def refuseValue (value : Text) : Action Unit := fail (.notCommand value)

/-! ### Lines -/

/-- The entry about a line that has been understood. -/
def parsedEntry (line : Text) (command : Command) : Entry :=
  ⟨.debug, Text.of "Parsed " ++ Text.quoted line ++ Text.of " as " ++ command.describe⟩

/-- What is noted about a trimmed line and its command. -/
def lineEntry (line : Text) (command : Command) : Entry :=
  if Glyph.nul ∈ line then ⟨.warning, Text.of "Input line contains a NUL character"⟩
  else parsedEntry line command

/-- Understand a line, and note what it was taken for. -/
def readCommand (line : Text) : Action (Option Command) := do
  match ← settle (Command.ofLine line) with
  | none => give none
  | some command =>
    emit [.noted (lineEntry (Text.trim line) command)]
    give (some command)

/-- Understand a line and carry its command out. -/
def evaluateLine (console : Console) (line : Text) : Action (Option Command) := do
  match ← readCommand line with
  | none => give none
  | some command =>
    command.evaluate console
    give (some command)

end LineShell
