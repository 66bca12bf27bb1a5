/-
This file is the program. It takes the environment variables that matter to the shell and the
bytes on the standard input, runs the shell over a file tree in memory that holds nothing but the
working directory, and then writes what was shown.
-/

import LineShell.CommandLine.Run

namespace LineShell

namespace CommandLine

/-- The variables that the shell looks at. -/
def variableNames : List String :=
  ["PATH", "HOME", "MINISH_PROMPT", "MINISH_LOG_LEVEL", "MINISH_LOG_FILE"]

/-- The settings of the variables in the environment of the process. -/
def inheritedVariables : IO (List Change) := do
  let mut changes := []
  for name in variableNames do
    if let some value ← IO.getEnv name then
      changes := .set (Text.of name) (Text.of value) :: changes
  return changes

/-- The status that the process ends with. -/
def exitCode : End → UInt8
  | .returned status | .stopped status => UInt8.ofNat status.toNat
  | .broken _ => 1

/-- What the process writes to the error output: the error output of the run, and the failure that
broke it off, if one did. -/
def allErrors (report : Report) : List UInt8 :=
  match report.ending with
  | .broken failure => report.errors ++ errorBytes (failure.message ++ Text.of "\n")
  | _ => report.errors

/-- The surroundings of the process: nothing is in the way of a journal in memory, and messages are
shown as they are. -/
def memory : Surroundings := ⟨fun _ _ => .ok (), id⟩

/-- Run the shell with arguments on the streams of the process. -/
def runProcess (arguments : List String) : IO UInt32 := do
  let changes ← inheritedVariables
  let input ← (← IO.getStdin).readBinToEnd
  let world := (World.bare [Text.of "home", Text.of "user"]).changeAll changes
  let report := run memory (arguments.map Text.of) (Input.ofBytes .strict input.toList) world
  (← IO.getStdout).write ⟨report.output.toArray⟩
  (← IO.getStderr).write ⟨(allErrors report).toArray⟩
  return (exitCode report.ending).toUInt32

end CommandLine

end LineShell

/-- The program. -/
def main (arguments : List String) : IO UInt32 := LineShell.CommandLine.runProcess arguments
