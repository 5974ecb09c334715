import Phrasebook.CommandLine.Command
import Phrasebook.CommandLine.Report

/-!
# What people are told

The short texts that answer a request for help or a command line that is not understood, and the
plain form of reports.
-/
namespace Phrasebook.CommandLine

/-- How the commands are called. -/
def usageLines : List String :=
  ["usage: [--color auto|always|never] [--verbose] COMMAND",
    "  eval (--template TEXT | --translations FILE --namespace NAME --key NAME)",
    "    [--param NAME=VALUE]... [--builtins] [--strict] [--json]",
    "  check FILE... [--modifiers NAMES] [--builtins] [--json]",
    "  coverage --source FILE [--lang NAMES] [--translations DIRECTORY] [--strict] [--json]"]

def versionText : String := "0.1.0"

namespace UsageError

/-- What is said about a command line that is not obeyed. -/
def lines : UsageError → List String
  | .helpWanted | .nothingGiven => usageLines
  | .versionWanted => [versionText]
  | .missingCommand => ["error: a command is required"]
  | .unknownCommand => ["error: unknown command"]
  | .unknownArgument => ["error: unexpected argument"]
  | .missingArgument => ["error: a required argument is missing"]
  | .conflict => ["error: arguments that exclude each other"]
  | .tooManyValues => ["error: a value for an option that takes none"]
  | .invalidValue => ["error: a value is missing or not one of those possible"]
  | .rejectedValue detail => ["error: " ++ detail]

end UsageError

/-- A report in plain lines. -/
def Report.plainLines (report : Report) : List String :=
  ["error: " ++ report.message]
    ++ report.causes.map (fun cause => "  caused by: " ++ cause)
    ++ report.labels.map (fun label =>
      "  " ++ label.text ++ ": " ++ report.source?.getD "" ++ ", byte " ++ toString label.offset)
    ++ report.help?.toList.map (fun help => "  help: " ++ help)

namespace Notice

/-- A notice in plain lines. -/
def plainLines : Notice → List String
  | .line text => [text]
  | .report shown => shown.plainLines

end Notice

end Phrasebook.CommandLine
