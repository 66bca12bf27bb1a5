/-
This file lists the flags of the command line and the texts that are shown about them.
-/

import LineShell.Text.Basic

namespace LineShell

/-- A flag of the command line. -/
inductive Flag where
  | help
  | prompt
  | level
  | journal
  | version
  deriving DecidableEq, Repr

namespace Flag

/-- The spellings of the flags, in the order in which they are offered. -/
def spellings : List (Text × Flag) :=
  [(Text.of "-h", .help), (Text.of "--help", .help), (Text.of "--prompt", .prompt),
    (Text.of "--log-level", .level), (Text.of "--log-file", .journal),
    (Text.of "--version", .version)]

/-- Whether a value belongs to a flag. -/
def takesValue : Flag → Bool
  | .help | .version => false
  | .prompt | .level | .journal => true

/-- A flag as it is called in messages: all its spellings. -/
def label (flag : Flag) : Text :=
  Text.joined (.scalar '/') ((spellings.filter fun entry => entry.2 = flag).map Prod.fst)

/-- The flag that is spelled in a certain way. -/
def ofSpelling? (text : Text) : Option Flag := spellings.lookup text

end Flag

/-- The two lines that recall how the command line is used. -/
def usage : Text := Text.of
  "usage: minish [-h] [--prompt PROMPT] [--log-level LOG_LEVEL]
              [--log-file LOG_FILE] [--version]
"

/-- What is shown to a user who asks for help. -/
def helpText : Text := usage ++ Text.of "
Interactive command interpreter with a handful of builtins.

options:
  -h, --help            show this help message and exit
  --prompt PROMPT       Prompt string (default: '$ ' or MINISH_PROMPT)
  --log-level LOG_LEVEL
                        Logging level: DEBUG, INFO, WARNING, ERROR or CRITICAL
  --log-file LOG_FILE   Write logs to this file instead of stderr
  --version             show program's version number and exit
"

/-- What is shown to a user who asks for the version. -/
def versionText : Text := Text.of "minish 0.1.0\n"

end LineShell
