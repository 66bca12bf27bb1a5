/-
This file fixes what the shell writes down about itself: entries with a level and a message. The
levels are ordered by their number, and a journal kept at some level holds the entries of that
level and above.
-/

import LineShell.Text.Basic

namespace LineShell

/-- How serious an entry is. -/
inductive Level where
  | debug
  | info
  | warning
  | error
  | critical
  deriving DecidableEq, Repr

namespace Level

/-- All levels, from the least to the most serious. -/
def all : List Level := [.debug, .info, .warning, .error, .critical]

/-- The name of a level as it is written in a journal. -/
def name : Level → String
  | .debug => "DEBUG"
  | .info => "INFO"
  | .warning => "WARNING"
  | .error => "ERROR"
  | .critical => "CRITICAL"

/-- The number by which levels are compared. -/
def number : Level → Nat
  | .debug => 10
  | .info => 20
  | .warning => 30
  | .error => 40
  | .critical => 50

theorem mem_all (level : Level) : level ∈ all := by
  cases level <;> decide

end Level

/-- One entry of the journal. -/
structure Entry where
  level : Level
  message : Text
  deriving DecidableEq, Repr

/-- An entry on a line of its own. The moment of the entry is not kept: a fixed word stands in
its place. -/
def Entry.line (entry : Entry) : Text :=
  Text.of "TIME - minish.container - " ++ Text.of entry.level.name ++ Text.of " - " ++
    entry.message ++ Text.of "\n"

/-- The lines of the entries that a journal at this level keeps. -/
def journalText (threshold : Level) (entries : List Entry) : Text :=
  (entries.filter fun entry => threshold.number ≤ entry.level.number).flatMap Entry.line

end LineShell
