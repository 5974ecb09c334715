import Phrasebook.Json.Fault
import Phrasebook.Template.Error
import Phrasebook.Text.Fields

/-!
# Reports

What a run leaves behind: an exit code, text on the standard output, and lines and reports on the
error output. A report says what went wrong and why, and may point into a source text.
-/
namespace Phrasebook.CommandLine

/-- A marked place in a source text, counted in bytes. -/
structure Label where
  text : String
  offset : Nat
  length : Nat
  deriving DecidableEq

structure Report where
  message : String
  /-- Why, the nearest cause first. -/
  causes : List String
  code? : Option String
  help? : Option String
  /-- The name of the source text. -/
  source? : Option String
  labels : List Label
  deriving DecidableEq

/-- A part of the error output. -/
inductive Notice where
  | line (text : String)
  | report (report : Report)
  deriving DecidableEq

/-- What a run leaves behind. -/
structure Outcome where
  exitCode : Nat
  output : String
  notices : List Notice
  deriving DecidableEq

/-- The exit code of a run that found nothing wrong. -/
def successCode : Nat := 0

/-- The exit code of a run that found something wrong with its input. -/
def dataErrorCode : Nat := 65

/-- The exit code of a run that could not be finished. -/
def failureCode : Nat := 70

/-- The lines of a text as notices. -/
def Notice.lines (text : String) : List Notice :=
  let (first, others) := Text.fields '\n' text.toList
  (first :: others).map fun line => .line (String.ofList line)

/-- A run that ended with a report, after other notices. -/
def Outcome.failed (notices : List Notice) (report : Report) : Outcome :=
  ⟨failureCode, "", notices ++ [.report report]⟩

namespace Report

/-- A report that points to a syntax error of a source text. -/
def ofSyntax (source text message : String) (help? : Option String) (place : Text.Position) :
    Report where
  message
  causes := []
  code? := some "lingo::syntax"
  help?
  source? := some source
  labels := [⟨"error here", place.byteOffset text.toList, 1⟩]

/-- What may be done about a flaw. Whether it is about a bar is told from its text. -/
def helpFor (flaw : Flaw) : Option String :=
  match flaw.detail? with
  | none => some "close the placeholder with '\x7d\x7d'"
  | some detail =>
    if '|' ∈ detail.toList then some "'|' separates branches inside '(singular|plural)'" else none

/-- The report on a malformed template. -/
def ofParseError (source template : String) (error : ParseError) : Report :=
  ofSyntax source template ("syntax error: " ++ error.message) (helpFor error.flaw) error.position

/-- The report on a file that holds no catalog. -/
def ofJsonError (path content : String) (error : Json.Error) : Report :=
  ofSyntax path content ("invalid translation file: " ++ error.message)
    (some "expected an object of namespaces, each an object of strings") error.place

/-- The report on a file that cannot be read. -/
def ofUnreadable (path reason : String) : Report where
  message := "Cannot read translation file " ++ path
  causes := [reason]
  code? := none
  help? := none
  source? := none
  labels := []

end Report

end Phrasebook.CommandLine
