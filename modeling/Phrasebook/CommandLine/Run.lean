import Phrasebook.CommandLine.Check
import Phrasebook.CommandLine.Coverage
import Phrasebook.CommandLine.Eval

/-!
# Running commands

A command is run against the files that it asks for. Which paths those are is known from the
command alone.
-/
namespace Phrasebook.CommandLine

/-- Run a command. -/
def Invocation.run (files : Files) (invocation : Invocation) : Outcome :=
  match invocation.command with
  | .eval command => command.run files
  | .check command => command.run files invocation.colored
  | .coverage command => command.run files

/-- The paths that a command may read. -/
def Command.paths : Command → List String
  | .eval command => match command.subject with
    | .template _ => []
    | .entry path _ _ => [path]
  | .check command => command.paths
  | .coverage command => command.source :: command.languages.map command.pathOf

end Phrasebook.CommandLine
