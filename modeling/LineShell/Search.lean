/-
This file finds programs. A name is looked up in the directories of the search path, in their
order, and the first file that everyone may execute is the program. A candidate that cannot be
opened is passed over, whatever the reason, and nothing after the program is looked at.
-/

import LineShell.System.Calls

namespace LineShell

open LineShell.Action

/-- The variable that holds the search path. -/
def pathVariable : Text := Text.of "PATH"

/-- The directories of the search path: its fields without the empty ones. -/
def Environment.searchPath (environment : Environment) : List Text :=
  (((environment pathVariable).getD []).splitOn .colon).filter fun field => !field.isEmpty

/-- Where a name is looked for, in order. -/
def Environment.candidates (environment : Environment) (name : Text) : List Text :=
  environment.searchPath.map fun directory => Path.join directory name

/-- Whether a candidate opens as a file that everyone may execute. A refusal is noted and counts
as no; any other failure goes through. -/
def isExecutable (candidate : Text) : Action Bool := do
  match ← attempt (openFile candidate) with
  | .ok node => give node.isProgram
  | .error (.refused refusal) =>
    note .debug (Text.of "Skipping " ++ candidate ++ Text.of ": " ++ refusal.message)
    give false
  | .error failure => fail failure

/-- The absolute form of a path. Only a relative path needs the working directory for it. -/
def absolutePath (path : Text) : Action Text :=
  if Path.isAbsolute path then give (Path.normal path)
  else do
    let directory ← workingDirectory
    give (Path.absolute directory path)

/-- The absolute form of the first executable candidate for a name. -/
def firstExecutable (name : Text) : List Text → Action (Option Text)
  | [] => do
    note .debug (name ++ Text.of " not found on search path")
    give none
  | candidate :: rest => do
    if ← isExecutable candidate then
      let path ← absolutePath candidate
      note .debug (Text.of "Resolved " ++ name ++ Text.of " to " ++ path)
      give (some path)
    else firstExecutable name rest

/-- The program that a name stands for. The empty name stands for none. -/
def resolve (name : Text) : Action (Option Text) := do
  if name = [] then give none
  else
    let world ← look
    firstExecutable name (world.environment.candidates name)

end LineShell
