import Std.Data.ExtTreeMap
import Phrasebook.Text.Quoted
import Phrasebook.Value

/-!
# Modifier registries

A modifier is a function on values, and a registry gives names to modifiers. A name that is not
registered leaves a value as it is; it is never an error.
-/
namespace Phrasebook

abbrev Modifier : Type := Value → Value

/-- Modifiers by name. -/
abbrev Registry : Type := Std.ExtTreeMap String Modifier

namespace Registry

/-- Add a modifier, in the place of one that had its name. -/
def register (registry : Registry) (name : String) (modifier : Modifier) : Registry :=
  registry.insert name modifier

/-- All modifiers of both registries; where both know a name, that of `more` is taken. -/
def extend (registry more : Registry) : Registry :=
  more.foldl (fun registry name modifier => registry.register name modifier) registry

/-- The value behind the named modifier. -/
def apply (registry : Registry) (name : String) (value : Value) : Value :=
  match registry[name]? with
  | some modifier => modifier value
  | none => value

/-- The value behind a chain of modifiers, the first one first. -/
def applyAll (registry : Registry) (names : List String) (value : Value) : Value :=
  names.foldl (fun value name => registry.apply name value) value

/-- The names of a registry, for people to look at. -/
def description (registry : Registry) : String :=
  "ModifierRegistry \x7b modifiers: ["
    ++ String.intercalate ", " (registry.keys.map Text.quoted) ++ "] \x7d"

@[simp] theorem applyAll_nil (registry : Registry) (value : Value) :
    registry.applyAll [] value = value := rfl

@[simp] theorem applyAll_cons (registry : Registry) (name : String) (names : List String)
    (value : Value) :
    registry.applyAll (name :: names) value = registry.applyAll names (registry.apply name value) :=
  rfl

@[simp] theorem apply_empty (name : String) (value : Value) :
    (∅ : Registry).apply name value = value := by
  simp [apply]

@[simp] theorem applyAll_empty (names : List String) (value : Value) :
    (∅ : Registry).applyAll names value = value := by
  induction names with
  | nil => rfl
  | cons name names ih => simp [ih]

end Registry

end Phrasebook
