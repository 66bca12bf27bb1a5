/-
This file chooses the settings of the shell. Each setting comes from an argument if it was given,
otherwise from an environment variable, otherwise from a default. An empty prompt is a prompt, but
an empty level or journal file given as an argument counts as not given.
-/

import LineShell.Journal
import LineShell.Session
import LineShell.Text.Blank
import LineShell.Text.UpperCase

namespace LineShell

/-- What is asked for in place of the environment's own settings. -/
structure Choices where
  prompt : Option Text
  level : Option Text
  journal : Option Text
  deriving DecidableEq, Repr

/-- Nothing asked for. -/
def Choices.none : Choices := ⟨.none, .none, .none⟩

/-- The settings of the shell. -/
structure Settings where
  prompt : Text
  level : Level
  /-- The file for the journal, if it is not to go to the error output. -/
  journal : Option Text
  deriving DecidableEq, Repr

/-- The level that a text names, blanks around it and the case of its letters aside. -/
def Level.ofText (text : Text) : Option Level :=
  Level.all.find? fun level => Text.of level.name = Text.upperCase (Text.trim text)

namespace Settings

/-- The variable with the prompt. -/
def promptVariable : Text := Text.of "MINISH_PROMPT"

/-- The variable with the level. -/
def levelVariable : Text := Text.of "MINISH_LOG_LEVEL"

/-- The variable with the file for the journal. -/
def journalVariable : Text := Text.of "MINISH_LOG_FILE"

/-- A text that is there and not empty. -/
def nonEmpty (text : Option Text) : Option Text := text.filter fun text => !text.isEmpty

/-- The prompt that is chosen. -/
def choosePrompt (choices : Choices) (environment : Environment) : Text :=
  (choices.prompt.or (environment promptVariable)).getD Session.defaultPrompt

/-- The name of the level that is chosen. -/
def chooseLevel (choices : Choices) (environment : Environment) : Text :=
  ((nonEmpty choices.level).or (environment levelVariable)).getD (Text.of Level.warning.name)

/-- The journal file that is chosen. -/
def chooseJournal (choices : Choices) (environment : Environment) : Option Text :=
  (nonEmpty choices.journal).or (nonEmpty (environment journalVariable))

/-- The settings that are chosen, unless the level is unknown. -/
def choose (choices : Choices) (environment : Environment) : Except Failure Settings :=
  let name := chooseLevel choices environment
  match Level.ofText name with
  | none => .error (.unknownLevel name)
  | some level => .ok ⟨choosePrompt choices environment, level, chooseJournal choices environment⟩

end Settings

/-- Sessions in a row with the settings that are chosen; without settings none of them starts.
Choices that are given are made at once. Otherwise the first session makes them, so that without
any session nothing is chosen and nothing can go wrong. -/
def Session.runChosen (console : Console) (given : Option Choices) (count : Nat)
    (lines : List Text) (world : World) : List Int × Option Failure × Ending :=
  match given, count with
  | none, 0 => Session.runMany console Session.defaultPrompt 0 lines world
  | _, _ =>
    match Settings.choose (given.getD .none) world.environment with
    | .error failure => ([], some failure, ⟨.error failure, lines, world, []⟩)
    | .ok settings => Session.runMany console settings.prompt count lines world

end LineShell
