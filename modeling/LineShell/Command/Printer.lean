/-
This file writes commands as lines. The line of a command is the plainest one that asks for it:
the keyword and what follows it after one space. A change of directory is written with a dot
after the path, so that blanks at the end of the path are not taken for the end of the line.
-/

import LineShell.Command.Basic

namespace LineShell

namespace Command

/-- A keyword, and what follows it after one space unless that is empty. -/
def keywordLine (keyword : String) (rest : Text) : Text :=
  if rest = [] then Text.of keyword else Text.of keyword ++ .space :: rest

/-- The plainest line for a command. -/
def line : Command → Text
  | .exit none => Text.of "exit"
  | .exit (some code) => keywordLine "exit" (Text.ofInt code)
  | .echo text => keywordLine "echo" text
  | .type target => keywordLine "type" target
  | .pwd => Text.of "pwd"
  | .cd none => Text.of "cd"
  | .cd (some path) => keywordLine "cd" (path ++ Text.of " .")
  | .external program arguments => Text.joined .space (program :: arguments)
  | .unrecognized line => line

end Command

end LineShell
