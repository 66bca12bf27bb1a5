import LineShell.Assembly
import LineShell.Command.Basic
import LineShell.Command.ExitCode
import LineShell.Command.Parser
import LineShell.Command.Printer
import LineShell.CommandLine.Arguments
import LineShell.CommandLine.Flag
import LineShell.CommandLine.Run
import LineShell.Console.Basic
import LineShell.Console.Input
import LineShell.Console.Terminal
import LineShell.Evaluation
import LineShell.Failure
import LineShell.Journal
import LineShell.Launch
import LineShell.Main
import LineShell.Outcome
import LineShell.Proofs.Bytes
import LineShell.Proofs.Canonical
import LineShell.Proofs.Codes
import LineShell.Proofs.Composition
import LineShell.Proofs.Configuration
import LineShell.Proofs.Course
import LineShell.Proofs.Denotation
import LineShell.Proofs.Directories
import LineShell.Proofs.Echo
import LineShell.Proofs.Effects
import LineShell.Proofs.Failures
import LineShell.Proofs.Forms
import LineShell.Proofs.Gathering
import LineShell.Proofs.Growth
import LineShell.Proofs.History
import LineShell.Proofs.Inheritance
import LineShell.Proofs.Lookup
import LineShell.Proofs.Matching
import LineShell.Proofs.Naming
import LineShell.Proofs.NulFree
import LineShell.Proofs.Numerals
import LineShell.Proofs.Order
import LineShell.Proofs.Output
import LineShell.Proofs.Parsing
import LineShell.Proofs.Readings
import LineShell.Proofs.Reporting
import LineShell.Proofs.Rooted
import LineShell.Proofs.Rounds
import LineShell.Proofs.Routes
import LineShell.Proofs.Running
import LineShell.Proofs.Settled
import LineShell.Proofs.Sharing
import LineShell.Proofs.Spawning
import LineShell.Proofs.Spelling
import LineShell.Proofs.Telling
import LineShell.Proofs.Understanding
import LineShell.Proofs.Words
import LineShell.Search
import LineShell.Session
import LineShell.Settings
import LineShell.Shell
import LineShell.System.Action
import LineShell.System.Calls
import LineShell.System.Errno
import LineShell.System.Path
import LineShell.System.Tree
import LineShell.System.World
import LineShell.Text.Basic
import LineShell.Text.Blank
import LineShell.Text.Decimal
import LineShell.Text.Hex
import LineShell.Text.Printable
import LineShell.Text.Quoted
import LineShell.Text.UpperCase
import LineShell.Text.Utf8
