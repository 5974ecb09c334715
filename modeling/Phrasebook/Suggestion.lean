import Phrasebook.Text.EditDistance

/-!
# Suggestions

Where a name is unknown, similar names that exist are suggested: those that can be reached by one
edit, or by two when the name has more than three characters. The nearest come first, names equally
near in their own order, and no more than three are listed.
-/
namespace Phrasebook

namespace Suggestion

/-- The greatest distance at which a candidate still resembles a name. -/
def limit (name : String) : Nat :=
  if name.length ≤ 3 then 1 else 2

/-- A candidate that resembles a name, and its distance from the name. -/
structure Neighbour where
  distance : Nat
  text : String
  deriving DecidableEq

/-- Whether one neighbour is listed before another one, or is the same. -/
def Neighbour.precedes (a b : Neighbour) : Bool :=
  a.distance < b.distance || (a.distance == b.distance && a.text ≤ b.text)

/-- The candidate as a neighbour of a name, if it resembles the name without being it. -/
def neighbour? (name candidate : String) : Option Neighbour :=
  let distance := Text.editDistance name.toList candidate.toList
  if distance ≤ limit name && 0 < distance then some ⟨distance, candidate⟩ else none

/-- The neighbours of a name in order. A candidate that is given again stands next to itself when
the neighbours are sorted, and is listed once. -/
def neighbours (name : String) (candidates : List String) : List Neighbour :=
  ((candidates.filterMap (neighbour? name)).mergeSort Neighbour.precedes).eraseReps

/-- How many names are listed at most. -/
def greatestCount : Nat := 3

/-- The candidates that resemble a name, the nearest ones first. -/
def suggestions (name : String) (candidates : List String) : List String :=
  ((neighbours name candidates).take greatestCount).map Neighbour.text

/-- A text in single quotes. -/
def quoted (text : String) : String := "'" ++ text ++ "'"

/-- Suggestions as the end of a message. -/
def suffix : List String → String
  | [] => ""
  | [only] => ", did you mean " ++ quoted only ++ "?"
  | many => ", did you mean one of: " ++ String.intercalate ", " (many.map quoted) ++ "?"

end Suggestion

end Phrasebook
