/-
This file runs the shell from its command line. The arguments are read, the settings chosen and
the journal file opened, in this order and all before the session starts: what goes wrong on the
way keeps the session from reading or writing anything. The journal file is kept apart from the
file tree, so what opening it comes to is not read off the tree: it belongs to the surroundings
that the shell is run in, as does the way in which a message is shown.
-/

import LineShell.CommandLine.Arguments
import LineShell.Console.Terminal

namespace LineShell

namespace CommandLine

/-- What the shell is run in, beside its world. -/
structure Surroundings where
  /-- Open the file at an absolute path for writing at its end, or refuse to. -/
  openAtEnd : World → Text → Except Failure Unit
  /-- What is seen on the error output of a message that is guarded against being marked up. -/
  shown : Text → Text

/-- How a run of the shell ends. -/
inductive End where
  /-- The shell gives back a status. -/
  | returned (status : Int)
  /-- Reading the arguments ends the run with a status. -/
  | stopped (status : Int)
  /-- A failure breaks the run off. -/
  | broken (failure : Failure)
  deriving DecidableEq, Repr

/-- What a run of the shell leaves behind. -/
structure Report where
  ending : End
  /-- What was written to the output. -/
  output : List UInt8
  /-- What was written to the error output. -/
  errors : List UInt8
  /-- The journal files that were opened, with their texts. -/
  journals : List (Text × Text)
  unread : List Text
  world : World
  effects : List Effect

/-- The bytes of a text on the error output, which spells stray bytes. -/
def errorBytes (text : Text) : List UInt8 := Text.encode .spell text

/-- The report of a run that stopped before the session. -/
def early (lines : List Text) (world : World) (ending : End) (output errors : Text) : Report where
  ending := ending
  output := Text.encode .preserve output
  errors := errorBytes errors
  journals := []
  unread := lines
  world := world
  effects := []

/-- The status for a command line or settings that make no sense. -/
def misuse : Int := 2

/-- The message about a mistake in the arguments. -/
def mistakeText (mistake : Arguments.Mistake) : Text :=
  usage ++ Text.of "minish: error: " ++ mistake.message ++ Text.of "\n"

variable (surroundings : Surroundings)

/-- The message about settings that cannot be chosen. -/
def settingsText (failure : Failure) : Text :=
  Text.of "minish: " ++ surroundings.shown failure.message ++ Text.of "\n"

/-- The absolute path of the journal file, if it can be opened. -/
def openJournal (world : World) (name : Text) : Except Failure Text := do
  let path ← (absolutePath name world).result
  surroundings.openAtEnd world path
  pure path

/-! ### The session -/

/-- The end of a run in which a session took place. -/
def endOf : Except Failure Int → End
  | .ok status => .returned status
  | .error failure => .broken failure

/-- The session on the terminal, with a prompt or without one. -/
def hold (prompt : Option Text) (lines : List Text) (world : World) : Ending :=
  match prompt with
  | some prompt => Session.run Console.terminal prompt lines world
  | none => Session.unprompted lines world

/-- Run a session, its journal going to a file or to the error output. -/
def runSession (prompt : Option Text) (level : Level) (file : Option Text) (lines : List Text)
    (world : World) : Report :=
  let ending := hold prompt lines world
  let journal := journalText level (Effect.entries ending.effects)
  { ending := endOf ending.result
    output := Terminal.output ending.effects
    errors := if file.isSome then [] else errorBytes journal
    journals := file.toList.map fun path => (path, journal)
    unread := ending.unread
    world := ending.world
    effects := ending.effects }

/-- Run the shell as it is wished. -/
def start (wishes : Arguments.Wishes) (lines : List Text) (world : World) : Report :=
  match Settings.choose wishes.choices world.environment with
  | .error failure => early lines world (.returned misuse) [] (settingsText surroundings failure)
  | .ok settings =>
    let prompt := if wishes.promptless then none else some settings.prompt
    match settings.journal with
    | none => runSession prompt settings.level none lines world
    | some name =>
      match openJournal surroundings world name with
      | .error failure => early lines world (.broken failure) [] []
      | .ok path => runSession prompt settings.level (some path) lines world

/-- Run the shell with arguments. -/
def run (arguments lines : List Text) (world : World) : Report :=
  match Arguments.read arguments with
  | .error mistake => early lines world (.stopped misuse) [] (mistakeText mistake)
  | .ok .help => early lines world (.stopped 0) helpText []
  | .ok .version => early lines world (.stopped 0) versionText []
  | .ok (.start wishes) => start surroundings wishes lines world

end CommandLine

end LineShell
