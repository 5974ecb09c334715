import Std.Data.ExtTreeMap
import Phrasebook.Value

/-!
# Variables

A set of variables binds names to values; two sets are equal when they bind the same names to the
same values. The variable `count` is special: it selects the branch of every alternative, and it is
the number one when nobody supplies it.
-/
namespace Phrasebook

/-- The values supplied for a template, by name. -/
abbrev Variables : Type := Std.ExtTreeMap String Value

namespace Variables

/-- The name of the variable that selects branches. -/
def countName : String := "count"

/-- The value of `count` when none is supplied. -/
def defaultCount : Value := .number 1

/-- The value that a template sees under a name. Absent variables are like none supplied. -/
def lookup (variables? : Option Variables) (name : String) : Option Value :=
  match variables?.bind (·[name]?) with
  | some value => some value
  | none => if name = countName then some defaultCount else none

/-- The value of `count`. -/
def count (variables? : Option Variables) : Value :=
  (variables?.bind (·[countName]?)).getD defaultCount

@[simp] theorem lookup_countName (variables? : Option Variables) :
    lookup variables? countName = some (count variables?) := by
  unfold lookup count
  cases variables?.bind (·[countName]?) <;> simp

/-- A name other than `count` is seen exactly as supplied. -/
theorem lookup_of_ne {name : String} (h : name ≠ countName) (variables? : Option Variables) :
    lookup variables? name = variables?.bind (·[name]?) := by
  unfold lookup
  cases variables?.bind (·[name]?) <;> simp [h]

/-- The names that are supplied, in order. -/
def names (variables? : Option Variables) : List String :=
  (variables?.map (·.keys)).getD []

end Variables

end Phrasebook
