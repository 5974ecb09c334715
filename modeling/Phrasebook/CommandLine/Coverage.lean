import Std.Data.ExtTreeSet
import Phrasebook.CommandLine.CatalogFile
import Phrasebook.CommandLine.Command
import Phrasebook.CommandLine.Grid
import Phrasebook.CommandLine.Path
import Phrasebook.Json.Writer

/-!
# Coverage

The names of a source catalog are looked for in the catalogs of other languages, which are found by
the names of the languages. A language without a file covers nothing. Names are compared in their
written form, group and key in one.
-/
namespace Phrasebook.CommandLine

/-- The names of all entries of a catalog. -/
def qualifiedNames (catalog : Catalog) : Std.ExtTreeSet String :=
  .ofList (catalog.entries.map fun entry => Catalog.qualifiedName entry.group entry.key)

/-- How much of the source one language covers. -/
structure LanguageCoverage where
  language : String
  /-- How many source names the language has. -/
  covered : Nat
  /-- The source names that it lacks, in order. -/
  missing : List String
  deriving DecidableEq

namespace LanguageCoverage

/-- The coverage of the source names by those of a language. -/
def of (language : String) (source covered : Std.ExtTreeSet String) : LanguageCoverage :=
  let missing := source.toList.filter fun name => !covered.contains name
  ⟨language, source.size - missing.length, missing⟩

def isComplete (coverage : LanguageCoverage) : Bool :=
  coverage.missing.isEmpty

end LanguageCoverage

namespace CoverageCommand

/-- Where the catalogs of the languages are: where the command says, or else beside the source. -/
def directory (command : CoverageCommand) : String :=
  (command.directory?.or (Path.parent? command.source)).getD "."

/-- The file of a language. -/
def pathOf (command : CoverageCommand) (language : String) : String :=
  Path.join command.directory (language ++ ".json")

/-- The names that a language has. -/
def languageNames (files : Files) (command : CoverageCommand) (language : String) :
    Except Report (Std.ExtTreeSet String) :=
  let path := command.pathOf language
  if files.exists? path then (readCatalog files path).map qualifiedNames else .ok ∅

/-- The coverage of a language. -/
def coverageOf (files : Files) (command : CoverageCommand) (source : Std.ExtTreeSet String)
    (language : String) : Except Report LanguageCoverage :=
  (command.languageNames files language).map (.of language source)

/-- A coverage as a document. -/
def document (total : Nat) (coverage : LanguageCoverage) : Json.Document :=
  .object [("language", .text coverage.language), ("translated", .nat coverage.covered),
    ("total", .nat total), ("missing", .array (coverage.missing.map .text))]

/-- The coverages as a grid. -/
def grid (total : Nat) (coverages : List LanguageCoverage) : Grid where
  header := ["Language", "Coverage", "Missing"]
  rows := coverages.map fun coverage =>
    [coverage.language, toString coverage.covered ++ "/" ++ toString total,
      toString coverage.missing.length]

/-- The lines that list what a language lacks. -/
def missingLines (coverage : LanguageCoverage) : List String :=
  if coverage.isComplete then []
  else ["", "Missing in " ++ coverage.language ++ ":"]
    ++ coverage.missing.map fun name => "  - " ++ name

/-- The lines of the output. -/
def outputLines (command : CoverageCommand) (total : Nat) (coverages : List LanguageCoverage) :
    List String :=
  if command.json then
    [(Json.Document.array (coverages.map (document total))).write .indented]
  else (grid total coverages).lines ++ coverages.flatMap missingLines

/-- Whether the exit code tells that something is missing. -/
def fails (command : CoverageCommand) (coverages : List LanguageCoverage) : Bool :=
  command.strict && coverages.any fun coverage => !coverage.isComplete

/-- The number of source names and the coverage of every language, in the given order. -/
def coverages (files : Files) (command : CoverageCommand) :
    Except Report (Nat × List LanguageCoverage) := do
  let source := qualifiedNames (← readCatalog files command.source)
  return (source.size, ← command.languages.mapM (command.coverageOf files source))

def run (files : Files) (command : CoverageCommand) : Outcome :=
  match command.coverages files with
  | .error report => .failed [] report
  | .ok (total, coverages) =>
    ⟨if command.fails coverages then dataErrorCode else successCode,
      String.join ((command.outputLines total coverages).map (· ++ "\n")), []⟩

end CoverageCommand

end Phrasebook.CommandLine
