/-
This file defines the console, on which the shell talks to its user. The console makes a strict
stream lenient before it uses it; a stream that cannot be changed is used as it is, and the
journal gets a warning each time. What is written waits in a buffer until it is flushed, except on
a stream that cannot be changed, which has no buffer.
-/

import LineShell.Console.Input
import LineShell.System.Action

namespace LineShell

open LineShell.Action

/-- What is told of a stream that stays strict: how it shows itself, and why it stays so. -/
structure Reluctance where
  stream : Text
  reason : Text
  deriving DecidableEq, Repr

/-- The stream that the console writes to. -/
inductive OutputStream where
  /-- A byte stream with a buffer. -/
  | buffered (handling : Handling)
  /-- A stream without a buffer that stays strict. -/
  | unyielding (reluctance : Reluctance)
  deriving DecidableEq, Repr

/-- The two streams of a console, of which the input is known by its staying strict, if it does. -/
structure Console where
  output : OutputStream
  unyieldingInput : Option Reluctance
  deriving DecidableEq, Repr

namespace Console

/-- The console of a terminal whose streams can be changed. -/
def terminal : Console := ⟨.buffered .strict, none⟩

/-- The warning about a stream that stays strict. -/
def cannotRelax (reluctance : Reluctance) : Entry :=
  ⟨.warning, Text.of "Cannot relax decoding errors on " ++ reluctance.stream ++ Text.of ": " ++
    reluctance.reason⟩

/-- What is noted when the output is used. -/
def outputWarnings (console : Console) : List Effect :=
  match console.output with
  | .buffered _ => []
  | .unyielding reluctance => [.noted (cannotRelax reluctance)]

/-- What is noted when the input is used. -/
def inputWarnings (console : Console) : List Effect :=
  match console.unyieldingInput with
  | none => []
  | some reluctance => [.noted (cannotRelax reluctance)]

/-- The bytes that the output makes of a text. -/
def encode (console : Console) (text : Text) : List UInt8 :=
  match console.output with
  | .buffered handling => Text.encode handling.relaxed text
  | .unyielding _ => Text.encode .preserve text

/-- The effects of giving a text to the output. -/
def writing (console : Console) (text : Text) : List Effect :=
  match console.output with
  | .buffered _ => [.written text (console.encode text)]
  | .unyielding reluctance =>
    [.noted (cannotRelax reluctance), .written text (console.encode text), .flushed]

/-- The effects of flushing the output. -/
def flushing (console : Console) : List Effect := console.outputWarnings ++ [.flushed]

/-- The effects of asking for a line: the prompt is shown, and then the input is used. -/
def prompting (console : Console) (prompt : Text) : List Effect :=
  console.writing prompt ++ console.flushing ++ console.inputWarnings

/-- A text as a line of its own. -/
def lineOf (text : Text) : Text := text ++ [.scalar '\n']

/-- Write a line. -/
def writeLine (console : Console) (text : Text) : Action Unit :=
  emit (console.writing (lineOf text))

/-- Show what has been written. -/
def flush (console : Console) : Action Unit := emit console.flushing

/-- The entry about the end of the input. -/
def endOfInput : Entry := ⟨.debug, Text.of "End of input reached"⟩

/-- Ask for a line of those that are left. The first one is given, or nothing at the end, where
nothing is used up and asking again gives the same answer. -/
def readLine (console : Console) (prompt : Text) (unread : List Text) :
    Action (Option Text × List Text) := do
  emit (console.prompting prompt)
  match unread with
  | [] =>
    emit [.noted endOfInput]
    give (none, [])
  | line :: rest => give (some line, rest)

end Console

end LineShell
