import Phrasebook.Catalog
import Phrasebook.Locale
import Phrasebook.Validation

/-!
# Comparing languages

The catalog of a target language is compared with that of its source language: templates that only
one of them has are reported, and templates of both that require different variables.
-/
namespace Phrasebook

/-- A difference between a target language, which is named, and its source language. -/
inductive Difference where
  | unknownKey (group key language : String)
  | missingKey (group key language : String)
  | variableMismatch (group key language : String) (source target : List String)
  deriving DecidableEq

namespace Difference

/-- Names in brackets. -/
def listed (names : List String) : String :=
  "[" ++ String.intercalate ", " names ++ "]"

/-- An entry of a language. -/
def place (group key language : String) : String :=
  "'" ++ Catalog.qualifiedName group key ++ "' in '" ++ language ++ "'"

def message : Difference → String
  | .unknownKey group key language =>
    place group key language ++ " does not exist in the source language"
  | .missingKey group key language =>
    "'" ++ Catalog.qualifiedName group key ++ "' is not translated in '" ++ language ++ "'"
  | .variableMismatch group key language source target =>
    place group key language ++ " uses variables " ++ listed target
      ++ ", source uses " ++ listed source

end Difference

/-- The variables that a template requires, in their own order; none if it is malformed. -/
def sortedVariables (template : String) : List String :=
  match requiredVariables template with
  | .ok names => names.mergeSort
  | .error _ => []

namespace Catalog

/-- The difference that an entry of the target shows, if any. -/
def entryDifference? (source : Catalog) (language : String) (entry : Entry) :
    Option Difference :=
  match source.get? entry.group entry.key with
  | none => some (.unknownKey entry.group entry.key language)
  | some template =>
    let wanted := sortedVariables template
    let used := sortedVariables entry.template
    if wanted = used then none
    else some (.variableMismatch entry.group entry.key language wanted used)

/-- The entries that the target lacks. -/
def missing (source target : Catalog) : List Entry :=
  source.entries.filter fun entry => !target.contains entry.group entry.key

/-- The differences of a target from its source: first those of its own entries, then the entries
that it lacks. -/
def differences (source target : Catalog) (language : String) : List Difference :=
  target.entries.filterMap (source.entryDifference? language)
    ++ (source.missing target).map fun entry => .missingKey entry.group entry.key language

end Catalog

namespace Locale

/-- The differences of one language from another one. Languages that are not loaded are not
compared. -/
def differences (locale : Locale) (source target : String) : List Difference :=
  match locale.catalog? source, locale.catalog? target with
  | some sourceCatalog, some targetCatalog => sourceCatalog.differences targetCatalog target
  | _, _ => []

end Locale

end Phrasebook
