/-
This file defines the calls to the operating system that the shell makes: opening a file, entering
a directory, asking for the working directory and spawning a program. Each of them is seen from
outside before anything else happens, except for the question, which is not seen at all.
-/

import LineShell.System.Action

namespace LineShell

open LineShell.Action

/-- Go where a path leads, or fail for the path. -/
def reach (path : Text) : Action (Location × Node) := do
  let world ← look
  match world.walk path with
  | .ok found => give found
  | .error obstacle => fail (obstacle.failure path)

/-- Open the file at a path to see what it is. The opening counts as one of the node's openings
even if it is refused. -/
def openFile (path : Text) : Action Node := do
  emit [.called (.openFile path)]
  let (location, node) ← reach path
  alter fun world => { world with tree := world.tree.replace location node.opened }
  match node.openings 0 with
  | some errno => fail (.refused (.known errno (some path)))
  | none => give node

/-- Make the directory at a path the working directory. -/
def enterDirectory (path : Text) : Action Unit := do
  emit [.called (.enter path)]
  let (location, node) ← reach path
  match node.barrier with
  | some errno => fail (.refused (.known errno (some path)))
  | none => alter fun world => { world with directory := location }

/-- The path of the working directory. -/
def World.directoryPath (world : World) : Except Failure Text :=
  match world.tree world.directory with
  | none => .error (.refused (.known .noEntry none))
  | some (.directory _ (some errno) _) => .error (.refused (.known errno none))
  | some _ => .ok world.directory.path

/-- Ask for the path of the working directory. -/
def workingDirectory : Action Text := do
  let world ← look
  settle world.directoryPath

/-- Refuse a directory that a program cannot be started in, since the program would have to enter
it. Where no directory is named there is nothing to refuse. -/
def checkDirectory : Option Text → Action Unit
  | none => give ()
  | some path => do
    let (_, node) ← reach path
    match node.barrier with
    | some errno => fail (.refused (.known errno (some path)))
    | none => give ()

/-- Let a program write and make its changes. -/
def letAct (output : List UInt8) (changes : List Change) : Action Unit := do
  emit [.emitted output]
  alter fun world => world.changeAll changes

@[simp] theorem letAct_apply (output : List UInt8) (changes : List Change) (world : World) :
    letAct output changes world = ⟨.ok (), world.changeAll changes, [.emitted output]⟩ := rfl

/-- Do what the program at a path does, and give the code it ends with. -/
def runProgram (path : Text) : Program → Action Int
  | .refused errno => fail (.refused (.known errno (some path)))
  | .refusedWith refusal => fail (.refused refusal)
  | .failing output changes mishap => do
    letAct output changes
    fail (.mishap mishap)
  | .running output changes code => do
    letAct output changes
    give code

/-- Spawn the program at a path with arguments, in a directory or where the shell is, and wait
for the code it ends with. -/
def spawn (path : Text) (arguments : List Text) (directory : Option Text) : Action Int := do
  emit [.called (.spawn path arguments directory)]
  if arguments.any (Glyph.nul ∈ ·) then fail .embeddedNul
  else
    checkDirectory directory
    let (_, node) ← reach path
    runProgram path node.program

end LineShell
