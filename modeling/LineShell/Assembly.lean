/-
This file keeps the parts of the shell together. Each part is built when it is first asked for,
from the parts it works with, and kept until the assembly is cleared. Parts are told apart by
numbers that are never used twice, and each remembers the numbers of the parts it was built from,
so that one can see whether two parts share a third.
-/

import LineShell.Settings

namespace LineShell

/-- The parts of the shell. -/
inductive Part where
  | console
  | environment
  | workingDirectory
  | resolver
  | launcher
  | runner
  | parser
  | dispatcher
  | session
  deriving DecidableEq, Repr

/-- All parts of the shell. -/
def Part.all : List Part :=
  [.console, .environment, .workingDirectory, .resolver, .launcher, .runner, .parser, .dispatcher,
    .session]

/-- One part as it was built: its number, and the numbers of the parts it works with. -/
structure Instance where
  identity : Nat
  collaborators : List (Part × Nat)
  deriving DecidableEq, Repr

/-- The parts that have been built and not cleared, the settings once they are known, and the next
number. -/
structure Assembly where
  chosen : Option (Nat × Settings)
  built : Part → Option Instance
  next : Nat

namespace Assembly

/-- An assembly without any part, perhaps with settings that were given to it. -/
def start : Option Settings → Assembly
  | none => ⟨none, fun _ => none, 0⟩
  | some settings => ⟨some (0, settings), fun _ => none, 1⟩

/-- All parts are forgotten; the settings and the numbers used are not. -/
def clear (assembly : Assembly) : Assembly := { assembly with built := fun _ => none }

/-- A new part under the next number. -/
def build (part : Part) (collaborators : List (Part × Nat)) : StateM Assembly Nat :=
  modifyGet fun assembly =>
    (assembly.next,
      { assembly with
        built := fun other =>
          if other = part then some ⟨assembly.next, collaborators⟩ else assembly.built other
        next := assembly.next + 1 })

/-- A part by its number: the one that has been built, or else a new one, for which the parts it
works with are gathered first. -/
def obtain (part : Part) (gather : StateM Assembly (List (Part × Nat))) : StateM Assembly Nat := do
  match (← get).built part with
  | some known => pure known.identity
  | none =>
    let collaborators ← gather
    build part collaborators

/-- The console. -/
def console : StateM Assembly Nat := obtain .console (pure [])

/-- The environment. -/
def environment : StateM Assembly Nat := obtain .environment (pure [])

/-- The working directory. -/
def workingDirectory : StateM Assembly Nat := obtain .workingDirectory (pure [])

/-- The parser of lines. -/
def parser : StateM Assembly Nat := obtain .parser (pure [])

/-- The search for programs, which looks into the environment. -/
def resolver : StateM Assembly Nat := obtain .resolver do
  let environment ← environment
  pure [(.environment, environment)]

/-- The launcher of programs, which searches for them. -/
def launcher : StateM Assembly Nat := obtain .launcher do
  let resolver ← resolver
  pure [(.resolver, resolver)]

/-- The runner of programs, which launches them. -/
def runner : StateM Assembly Nat := obtain .runner do
  let launcher ← launcher
  pure [(.launcher, launcher)]

/-- The dispatcher of commands. -/
def dispatcher : StateM Assembly Nat := obtain .dispatcher do
  let console ← console
  let resolver ← resolver
  let workingDirectory ← workingDirectory
  let environment ← environment
  let runner ← runner
  pure [(.console, console), (.resolver, resolver), (.workingDirectory, workingDirectory),
    (.environment, environment), (.runner, runner)]

/-- The settings by their number: those that are known, or else those that the environment
chooses now. -/
def settings (inherited : Environment) : StateM Assembly (Except Failure (Nat × Settings)) := do
  let assembly ← get
  match assembly.chosen with
  | some known => pure (.ok known)
  | none =>
    match Settings.choose .none inherited with
    | .error failure => pure (.error failure)
    | .ok settings =>
      let known := (assembly.next, settings)
      set { assembly with chosen := some known, next := assembly.next + 1 }
      pure (.ok known)

/-- The session. The parts it works with stay built even if the settings it needs cannot be
chosen. -/
def session (inherited : Environment) : StateM Assembly (Except Failure Nat) := do
  match (← get).built .session with
  | some known => pure (.ok known.identity)
  | none =>
    let console ← console
    let parser ← parser
    let dispatcher ← dispatcher
    match ← settings inherited with
    | .error failure => pure (.error failure)
    | .ok _ =>
      let collaborators := [(.console, console), (.parser, parser), (.dispatcher, dispatcher)]
      .ok <$> build .session collaborators

/-- A part by its number, built if it has to be. Only the session can fail. -/
def request (inherited : Environment) : Part → StateM Assembly (Except Failure Nat)
  | .console => .ok <$> console
  | .environment => .ok <$> environment
  | .workingDirectory => .ok <$> workingDirectory
  | .resolver => .ok <$> resolver
  | .launcher => .ok <$> launcher
  | .runner => .ok <$> runner
  | .parser => .ok <$> parser
  | .dispatcher => .ok <$> dispatcher
  | .session => session inherited

end Assembly

end LineShell
