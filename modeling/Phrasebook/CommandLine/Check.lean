import Phrasebook.CommandLine.CatalogFile
import Phrasebook.CommandLine.Command
import Phrasebook.Json.Writer
import Phrasebook.Lint
import Phrasebook.Modifier.Builtin

/-!
# Checking catalogs

Every template of the given catalogs is linted. Findings are listed one by one, malformed templates
with a report that points into them, or they are written as one document. The first file that cannot
be read ends the run.
-/
namespace Phrasebook.CommandLine

/-- A colour of a terminal. -/
inductive Color where
  | green
  | yellow
  deriving DecidableEq

/-- A text in a colour, if there are colours. -/
def Color.paint (color : Color) (colored : Bool) (text : String) : String :=
  let start := match color with
    | .green => "\x1b[32m"
    | .yellow => "\x1b[33m"
  if colored then start ++ text ++ "\x1b[39m" else text

namespace CheckCommand

/-- The modifiers that are taken as known, if any are named. -/
def modifiers? (command : CheckCommand) : Option Registry :=
  if command.modifiers.isEmpty && !command.builtins then none
  else
    let start := if command.builtins then Registry.builtins else ∅
    some (command.modifiers.foldl (fun registry name => registry.register name id) start)

/-- The findings in a file, with its catalog. -/
structure Checked where
  path : String
  catalog : Catalog
  lints : List Lint

def check (files : Files) (command : CheckCommand) (path : String) : Except Report Checked := do
  let catalog ← readCatalog files path
  return ⟨path, catalog, Lint.ofCatalog catalog command.modifiers?⟩

/-- Check files in order. The report on the first one that cannot be read ends the list. -/
def checkAll (files : Files) (command : CheckCommand) :
    List String → List Checked × Option Report
  | [] => ([], none)
  | path :: paths =>
    match command.check files path with
    | .error report => ([], some report)
    | .ok checked =>
      (checked :: (checkAll files command paths).1, (checkAll files command paths).2)

/-- The notice of a finding. -/
def notice (colored : Bool) (checked : Checked) (lint : Lint) : Notice :=
  match lint.finding with
  | .malformed cause =>
    .report (.ofParseError
      (checked.path ++ "#" ++ Catalog.qualifiedName lint.group lint.key)
      ((checked.catalog.get? lint.group lint.key).getD "") cause)
  | .unknownModifier _ _ | .extraBranches _ =>
    .line (Color.yellow.paint colored "warning:" ++ " " ++ checked.path ++ ": " ++ lint.message)

/-- A finding as a document. -/
def document (checked : Checked) (lint : Lint) : Json.Document :=
  .object [("file", .text checked.path), ("namespace", .text lint.group),
    ("key", .text lint.key), ("message", .text lint.message)]

/-- What is said in the end about a number of findings. -/
def summary (command : CheckCommand) (colored : Bool) (count : Nat) : String :=
  if count = 0 then
    Color.green.paint colored "ok:" ++ " " ++ toString command.paths.length ++ " file(s) checked"
  else toString count ++ " warning(s) found"

def run (files : Files) (command : CheckCommand) (colored : Bool) : Outcome :=
  let (all, failure?) := command.checkAll files command.paths
  let findings := all.flatMap fun checked => checked.lints.map fun lint => (checked, lint)
  let notices :=
    if command.json then []
    else findings.flatMap fun (checked, lint) => match notice colored checked lint with
      | .line text => Notice.lines text
      | .report report => [.report report]
  match failure? with
  | some report => .failed notices report
  | none =>
    let output :=
      if command.json then
        (Json.Document.array (findings.map fun (checked, lint) => document checked lint)).write
          .indented
      else command.summary colored findings.length
    ⟨if findings.isEmpty then successCode else dataErrorCode, output ++ "\n", notices⟩

end CheckCommand

end Phrasebook.CommandLine
