import Phrasebook.Catalog
import Phrasebook.Resolve
import Phrasebook.Validation

/-!
# Bundles

A bundle is the catalog of a language with the modifiers its templates use. A phrase is found
by looking a template up and resolving it. Looking for it can be asked to fail where there is no
template, and also where a variable is missing.
-/
namespace Phrasebook

/-- Why there is no phrase. -/
inductive PhraseError where
  | templateNotFound (group key : String) (suggestions : List String)
  | languageNotLoaded (language : String)
  | invalid (cause : ValidationError)
  deriving DecidableEq

def PhraseError.message : PhraseError → String
  | .templateNotFound group key suggestions =>
    "no template for '" ++ Catalog.qualifiedName group key ++ "'"
      ++ Suggestion.suffix suggestions
  | .languageNotLoaded language => "no translations loaded for language '" ++ language ++ "'"
  | .invalid cause => cause.message

structure Bundle where
  catalog : Catalog
  modifiers : Registry

namespace Bundle

/-- The bundle without templates and modifiers. -/
def empty : Bundle := ⟨∅, ∅⟩

instance : EmptyCollection Bundle := ⟨empty⟩

/-- The template under a group and a key, or why there is none. -/
def findTemplate (bundle : Bundle) (group key : String) : Except PhraseError String :=
  match bundle.catalog.get? group key with
  | some template => .ok template
  | none =>
    .error (.templateNotFound group key (Suggestion.suggestions key (bundle.catalog.keys group)))

/-- A template resolved with the modifiers of the bundle. -/
def resolve (bundle : Bundle) (template : String) (variables? : Option Variables) : String :=
  Phrasebook.resolve template variables? (some bundle.modifiers)

/-- The phrase under a group and a key, which is empty where there is no template. -/
def phrase (bundle : Bundle) (group key : String) (variables? : Option Variables) : String :=
  match bundle.catalog.get? group key with
  | some template => bundle.resolve template variables?
  | none => ""

/-- The phrase, if there is a template. -/
def findPhrase (bundle : Bundle) (group key : String) (variables? : Option Variables) :
    Except PhraseError String :=
  match bundle.findTemplate group key with
  | .ok template => .ok (bundle.resolve template variables?)
  | .error e => .error e

/-- The phrase, if there is a template and every variable that it requires is supplied. -/
def checkedPhrase (bundle : Bundle) (group key : String) (variables? : Option Variables) :
    Except PhraseError String :=
  match bundle.findTemplate group key with
  | .error e => .error e
  | .ok template =>
    match validate template variables? with
    | .ok () => .ok (bundle.resolve template variables?)
    | .error cause => .error (.invalid cause)

end Bundle

end Phrasebook
