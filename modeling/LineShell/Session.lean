/-
This file holds the conversation between the shell and its user. A session shows its prompt, reads
a line and carries it out, again and again, until a line asks to leave or there is no line left.
Each turn starts from nothing but the world and the lines that are left.
-/

import LineShell.Evaluation

namespace LineShell

/-- How a session ended, and what it left. -/
structure Ending where
  /-- The status, or the failure that broke the session off. -/
  result : Except Failure Int
  /-- The lines that were not read. -/
  unread : List Text
  world : World
  effects : List Effect

/-- An ending with effects before its own. -/
def Ending.after (earlier : List Effect) (ending : Ending) : Ending :=
  { ending with effects := earlier ++ ending.effects }

namespace Session

/-- The prompt of a session that was given none. -/
def defaultPrompt : Text := Text.of "$ "

/-- The entry about the start of a session. -/
def started : Entry := ⟨.info, Text.of "Interactive session started"⟩

/-- The entry about the end of a session without a line left. -/
def exhausted : Entry := ⟨.info, Text.of "Input exhausted, ending session"⟩

/-- The entry about the end of a session that was left. -/
def ended (status : Int) : Entry :=
  ⟨.info, Text.of "Session ended with status " ++ Text.ofInt status⟩

/-- The turns of a session over the lines that are left. -/
def turns (console : Console) (prompt : Text) : List Text → World → Ending
  | [], world =>
    ⟨.ok 0, [], world,
      console.prompting prompt ++ [.noted Console.endOfInput, .noted exhausted]⟩
  | line :: rest, world =>
    let turn := evaluateLine console line world
    let effects := console.prompting prompt ++ turn.effects
    match turn.result with
    | .ok _ => (turns console prompt rest turn.world).after effects
    | .error (.exit status) => ⟨.ok status, rest, turn.world, effects ++ [.noted (ended status)]⟩
    | .error failure => ⟨.error failure, rest, turn.world, effects⟩

/-- A whole session. -/
def run (console : Console) (prompt : Text) (lines : List Text) (world : World) : Ending :=
  (turns console prompt lines world).after [.noted started]

/-- A session that has no text for its prompt: it breaks off before it reads a line. -/
def unprompted (lines : List Text) (world : World) : Ending :=
  ⟨.error .noPrompt, lines, world, [.noted started]⟩

/-- Sessions in a row over the same lines, each going on in the world that the one before it
left. A failure ends the row. Gives the statuses and the failure if there is one. -/
def runMany (console : Console) (prompt : Text) :
    Nat → List Text → World → List Int × Option Failure × Ending
  | 0, lines, world => ([], none, ⟨.ok 0, lines, world, []⟩)
  | count + 1, lines, world =>
    let first := run console prompt lines world
    match first.result with
    | .error failure => ([], some failure, first)
    | .ok status =>
      let (statuses, failure, rest) := runMany console prompt count first.unread first.world
      (status :: statuses, failure, rest.after first.effects)

end Session

end LineShell
