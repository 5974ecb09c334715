import Phrasebook.Bundle
import Phrasebook.CommandLine.CatalogFile
import Phrasebook.CommandLine.Command
import Phrasebook.Json.Writer
import Phrasebook.Modifier.Builtin

/-!
# Evaluating templates

A template, or the template of a catalog entry, is resolved against the parameters. When strict,
it fails unless every variable that it requires is given.
-/
namespace Phrasebook.CommandLine

namespace EvalCommand

/-- The parameters as variables. A name that is given again has its last value. -/
def supplied (command : EvalCommand) : Variables :=
  command.parameters.foldl (fun supplied (name, value) => supplied.insert name (.ofText value)) ∅

def modifiers (command : EvalCommand) : Registry :=
  if command.builtins then .builtins else ∅

/-- The text of a template, or the message of what is wrong with it. -/
def templateText (command : EvalCommand) (template : String) : Except String String :=
  let variables? := some command.supplied
  let text := resolve template variables? (some command.modifiers)
  if command.strict then
    match validate template variables? with
    | .ok () => .ok text
    | .error e => .error e.message
  else .ok text

/-- The text of a catalog entry, or the message of what is wrong with it. -/
def entryText (command : EvalCommand) (catalog : Catalog) (group key : String) :
    Except String String :=
  let bundle : Bundle := ⟨catalog, command.modifiers⟩
  let variables? := some command.supplied
  let result :=
    if command.strict then bundle.checkedPhrase group key variables?
    else bundle.findPhrase group key variables?
  result.mapError PhraseError.message

/-- A document with one text under a name. -/
def textDocument (name text : String) : String :=
  (Json.Document.object [(name, .text text)]).write .indented

/-- What a run leaves behind when the text or the message is known. -/
def outcome (command : EvalCommand) : Except String String → Outcome
  | .ok text =>
    ⟨successCode, (if command.json then textDocument "result" text else text) ++ "\n", []⟩
  | .error message =>
    ⟨dataErrorCode, "", Notice.lines
      (if command.json then textDocument "error" message else "Evaluation error: " ++ message)⟩

def run (files : Files) (command : EvalCommand) : Outcome :=
  match command.subject with
  | .template template => command.outcome (command.templateText template)
  | .entry path group key =>
    match readCatalog files path with
    | .ok catalog => command.outcome (command.entryText catalog group key)
    | .error report => .failed [] report

end EvalCommand

end Phrasebook.CommandLine
