/-
This file says what a user sees. A terminal has shown some bytes and holds others back in the
console's buffer. Text for the console goes into the buffer, a flush shows the buffer, and what a
program writes is shown at once, ahead of anything that is still held back.
-/

import LineShell.System.Action

namespace LineShell

/-- The bytes that have been shown, and those in the console's buffer. -/
structure Terminal where
  shown : List UInt8
  pending : List UInt8
  deriving DecidableEq, Repr

namespace Terminal

/-- The terminal on which nothing has happened. -/
def blank : Terminal := ⟨[], []⟩

/-- The terminal after one effect. -/
def play (terminal : Terminal) : Effect → Terminal
  | .written _ bytes => { terminal with pending := terminal.pending ++ bytes }
  | .flushed => ⟨terminal.shown ++ terminal.pending, []⟩
  | .emitted bytes => { terminal with shown := terminal.shown ++ bytes }
  | .called _ | .noted _ => terminal

/-- The terminal after some effects in a row. -/
def playAll (terminal : Terminal) (effects : List Effect) : Terminal := effects.foldl play terminal

/-- All that a user sees of some effects once the buffer is shown too. -/
def output (effects : List Effect) : List UInt8 :=
  let final := blank.playAll effects
  final.shown ++ final.pending

@[simp] theorem playAll_nil (terminal : Terminal) : terminal.playAll [] = terminal := rfl

@[simp] theorem playAll_cons (terminal : Terminal) (first : Effect) (rest : List Effect) :
    terminal.playAll (first :: rest) = (terminal.play first).playAll rest := rfl

@[simp] theorem playAll_append (terminal : Terminal) (first second : List Effect) :
    terminal.playAll (first ++ second) = (terminal.playAll first).playAll second := by
  simp [playAll]

/-- A flush leaves nothing in the buffer. -/
@[simp] theorem pending_play_flushed (terminal : Terminal) :
    (terminal.play .flushed).pending = [] := rfl

/-- What was shown before does not matter to what is shown next. -/
theorem shown_playAll (terminal : Terminal) (effects : List Effect) :
    (terminal.playAll effects).shown =
      terminal.shown ++ (playAll ⟨[], terminal.pending⟩ effects).shown ∧
    (terminal.playAll effects).pending = (playAll ⟨[], terminal.pending⟩ effects).pending := by
  induction effects generalizing terminal with
  | nil => simp
  | cons first rest inductionHypothesis =>
    have whole := inductionHypothesis (terminal.play first)
    have part := inductionHypothesis (play ⟨[], terminal.pending⟩ first)
    rw [playAll_cons, playAll_cons, whole.1, whole.2, part.1, part.2]
    cases first <;> simp [play]

end Terminal

end LineShell
