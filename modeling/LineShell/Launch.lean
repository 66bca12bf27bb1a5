/-
This file runs programs. Launching looks the program up once more, spawns it and waits for its
end; a refusal to spawn becomes a failure with a reason for the user. Running wraps a launch so
that it either gives an outcome or fails in one of three ways: the program is not found, it could
not be launched, or the user interrupted it.
-/

import LineShell.Outcome
import LineShell.Search

namespace LineShell

open LineShell.Action

/-- Conclude the spawn of the program at a path. A refusal is noted and explained. -/
def concludeSpawn (path : Text) : Except Failure Int → Action Int
  | .ok code => give code
  | .error (.refused refusal) => do
    note .error (Text.of "Failed to spawn " ++ path ++ Text.of ": " ++ refusal.message)
    fail (.launchFailed refusal.explanation)
  | .error failure => fail failure

/-- Spawn the program at a path. -/
def spawnAt (path : Text) (arguments : List Text) (directory : Option Text) : Action Int := do
  note .info (Text.of "Spawning " ++ path ++ Text.of " with argv " ++ Text.quotedList arguments)
  concludeSpawn path (← attempt (spawn path arguments directory))

/-- Spawn what a program's name was found to stand for, and note how it ended. -/
def launchFound (name : Text) (arguments : List Text) (directory : Option Text) :
    Option Text → Action Outcome
  | none => fail (.programNotFound name)
  | some path => do
    let outcome := Outcome.ofCode (← spawnAt path arguments directory)
    note .info (name ++ Text.of " finished: " ++ outcome.describe)
    give outcome

/-- Launch a program by its name, the first of the arguments. -/
def launch (arguments : List Text) (directory : Option Text) : Action Outcome := do
  match arguments with
  | [] => fail (.launchFailed (Text.of "Empty argument vector"))
  | name :: _ => launchFound name arguments directory (← resolve name)

/-- What a failed run fails with, and what is noted about it. A program that is not found or not
launched is known already, and an interruption is the user's own doing; everything else is an
error that keeps its message. -/
def runFailure : Failure → Action Outcome
  | .programNotFound name => fail (.programNotFound name)
  | .launchFailed reason => fail (.launchFailed reason)
  | .mishap (.interrupted message) => fail (.mishap (.interrupted message))
  | failure => do
    note .error (Text.of "Error running external program: " ++ failure.message)
    fail (.launchFailed failure.message)

/-- Note that a program is to be run, launch it, and note how it ended. -/
def launchNoted (name : Text) (arguments : List Text) (directory : Option Text) :
    Action Outcome := do
  note .info (Text.of "Running external program: " ++ name)
  let outcome ← launch arguments directory
  note .info (Text.of "Program finished: " ++ outcome.describe)
  give outcome

/-- Conclude a run, whatever its launch came to. -/
def concludeRun : Except Failure Outcome → Action Outcome
  | .ok outcome => give outcome
  | .error failure => runFailure failure

/-- Run a program by its name, the first of the arguments. -/
def run (arguments : List Text) (directory : Option Text) : Action Outcome := do
  match arguments with
  | [] =>
    let reason := Text.of "list index out of range"
    note .error (Text.of "Error running external program: " ++ reason)
    fail (.launchFailed reason)
  | name :: _ => concludeRun (← attempt (launchNoted name arguments directory))

end LineShell
