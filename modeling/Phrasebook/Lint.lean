import Phrasebook.Catalog
import Phrasebook.Modifier.Registry
import Phrasebook.Suggestion
import Phrasebook.Template.Parser

/-!
# Lint

A template that resolves may still not do what its author meant. A malformed template is reported
by its syntax error alone. In any other template, modifiers that a registry does not know are
reported, if there is a registry, and then every alternative with branches that are never selected.
-/
namespace Phrasebook

/-- What is suspicious in a template. -/
inductive Lint.Finding where
  | malformed (cause : ParseError)
  | unknownModifier (name : String) (suggestions : List String)
  | extraBranches (count : Nat)
  deriving DecidableEq

/-- A finding in the template of a catalog entry. -/
structure Lint where
  group : String
  key : String
  finding : Lint.Finding
  deriving DecidableEq

namespace Lint

def Finding.message : Finding → String
  | .malformed cause => cause.message
  | .unknownModifier name suggestions =>
    "unknown modifier '" ++ name ++ "'" ++ Suggestion.suffix suggestions
  | .extraBranches count =>
    "alternative has " ++ toString count ++ " branches, only the first two are used"

def message (lint : Lint) : String :=
  Catalog.qualifiedName lint.group lint.key ++ ": " ++ lint.finding.message

end Lint

namespace Template

/-- The modifiers of a template that a registry does not know. -/
def unknownModifiers (template : Template) (registry : Registry) : List Lint.Finding :=
  (template.modifierNames.filter fun name => !registry.contains name).map fun name =>
    .unknownModifier name (Suggestion.suggestions name registry.keys)

/-- The alternatives of a template that have more than two branches. -/
def extraBranches (template : Template) : List Lint.Finding :=
  (template.alternatives.filter fun branches => 2 < branches.length).map fun branches =>
    .extraBranches branches.length

end Template

namespace Lint

/-- The findings in the source of a template. -/
def findings (source : String) (modifiers? : Option Registry) : List Finding :=
  match Template.parse source with
  | .error cause => [.malformed cause]
  | .ok template =>
    (modifiers?.map template.unknownModifiers).getD [] ++ template.extraBranches

/-- The findings in the template of one entry. -/
def ofEntry (group key template : String) (modifiers? : Option Registry) : List Lint :=
  (findings template modifiers?).map fun finding => ⟨group, key, finding⟩

/-- The findings in all templates of a catalog, in its order. -/
def ofCatalog (catalog : Catalog) (modifiers? : Option Registry) : List Lint :=
  catalog.entries.flatMap fun entry =>
    ofEntry entry.group entry.key entry.template modifiers?

end Lint

end Phrasebook
