/-
This file defines a shell at work: its console, the lines it has not read, the world, and the bytes
it has written and not shown. Whatever it is asked to do leaves a new shell and a record of what
was done.
-/

import LineShell.Console.Terminal
import LineShell.Session

namespace LineShell

/-- A shell at work. -/
structure Shell where
  console : Console
  unread : List Text
  world : World
  /-- What waits in the console's buffer. -/
  pending : List UInt8

/-- What came of something that a shell was asked to do. -/
structure Turn (α : Type) where
  result : Except Failure α
  effects : List Effect
  /-- The bytes that were shown in this turn. -/
  shown : List UInt8
  shell : Shell

namespace Shell

/-- The turn that some effects make of a shell. -/
def turn {α : Type} (shell : Shell) (result : Except Failure α) (effects : List Effect)
    (unread : List Text) (world : World) : Turn α :=
  let terminal := Terminal.playAll ⟨[], shell.pending⟩ effects
  { result := result
    effects := effects
    shown := terminal.shown
    shell := { shell with unread := unread, world := world, pending := terminal.pending } }

/-- Do an action that reads no line. -/
def perform {α : Type} (shell : Shell) (action : Action α) : Turn α :=
  let step := action shell.world
  shell.turn step.result step.effects shell.unread step.world

/-- Read a line. -/
def readLine (shell : Shell) (prompt : Text) : Turn (Option Text) :=
  let step := shell.console.readLine prompt shell.unread shell.world
  match step.result with
  | .ok (line, unread) => shell.turn (.ok line) step.effects unread step.world
  | .error failure => shell.turn (.error failure) step.effects shell.unread step.world

/-- Hold a session. -/
def converse (shell : Shell) (prompt : Text) : Turn Int :=
  let ending := Session.run shell.console prompt shell.unread shell.world
  shell.turn ending.result ending.effects ending.unread ending.world

end Shell

end LineShell
