import Phrasebook.Suggestion
import Phrasebook.Template.Parser
import Phrasebook.Variables

/-!
# Validation

A template requires the variables of its placeholders, apart from `count`, which has a value when
nobody supplies one. A set of variables is validated by looking for the first required variable
that it lacks.
-/
namespace Phrasebook

/-- The variables that a template requires, each where it is first seen. -/
def Template.requiredNames (template : Template) : List String :=
  template.variableNames.filter (· ≠ Variables.countName)

/-- The variables that a template requires, if it can be read. -/
def requiredVariables (template : String) : Except ParseError (List String) :=
  (Template.parse template).map Template.requiredNames

/-- Why variables do not fit a template. -/
inductive ValidationError where
  | missingVariable (name : String) (suggestions : List String)
  | malformed (cause : ParseError)
  deriving DecidableEq

def ValidationError.message : ValidationError → String
  | .missingVariable name suggestions =>
    "missing variable '" ++ name ++ "'" ++ Suggestion.suffix suggestions
  | .malformed cause => "malformed template: " ++ cause.message

/-- Whether a variable is supplied. -/
def Variables.supplies (variables? : Option Variables) (name : String) : Bool :=
  variables?.any (·.contains name)

namespace Variables

theorem supplies_eq_isSome (variables? : Option Variables) (name : String) :
    supplies variables? name = (variables?.bind (·[name]?)).isSome := by
  cases variables? with
  | none => rfl
  | some supplied => exact Std.ExtTreeMap.contains_eq_isSome_getElem?

/-- The names that have a value are the supplied ones and `count`. -/
theorem isSome_lookup_iff {variables? : Option Variables} {name : String} :
    (lookup variables? name).isSome = true ↔
      name = countName ∨ supplies variables? name = true := by
  by_cases hname : name = countName
  · subst hname
    simp
  · rw [lookup_of_ne hname, supplies_eq_isSome]
    simp [hname]

end Variables

/-- Check that every variable that a template requires is supplied. -/
def validate (template : String) (variables? : Option Variables) : Except ValidationError Unit :=
  match requiredVariables template with
  | .error cause => .error (.malformed cause)
  | .ok names =>
    match names.find? fun name => !Variables.supplies variables? name with
    | none => .ok ()
    | some name =>
      .error (.missingVariable name
        (Suggestion.suggestions name (Variables.names variables?)))

end Phrasebook
