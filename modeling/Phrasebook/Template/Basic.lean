import Phrasebook.Text.Fields

/-!
# Templates

A template is read into segments: literal text, placeholders for variables, and alternatives of
which `count` selects a branch. An alternative has two branches at least; those behind the second
are never selected.
-/
namespace Phrasebook

/-- What stands in a placeholder: a variable and the modifiers of its value, the first one first. -/
structure Slot where
  name : String
  modifiers : List String
  deriving DecidableEq

namespace Slot

/-- The slot that the body of a placeholder writes: the name and the modifiers are its fields
between colons. -/
def ofBody (body : List Char) : Slot where
  name := String.ofList (Text.fields ':' body).1
  modifiers := (Text.fields ':' body).2.map String.ofList

/-- The body that writes a slot. -/
def body (slot : Slot) : List Char :=
  Text.joinFields ':' slot.name.toList (slot.modifiers.map String.toList)

/-- A body is the one that its slot writes. -/
@[simp] theorem body_ofBody (text : List Char) : (ofBody text).body = text := by
  simp [ofBody, body, Function.comp_def]

end Slot

/-- A part of a template. -/
inductive Segment where
  | literal (text : String)
  | placeholder (slot : Slot)
  | alternative (singular plural : String) (others : List String)
  deriving DecidableEq

namespace Segment

/-- The slot of a placeholder. -/
def slot? : Segment → Option Slot
  | .placeholder slot => some slot
  | .literal _ => none
  | .alternative _ _ _ => none

/-- The branches of an alternative, if the segment is one. -/
def branches? : Segment → Option (List String)
  | .alternative singular plural others => some (singular :: plural :: others)
  | .literal _ => none
  | .placeholder _ => none

end Segment

/-- A template that has been read. -/
structure Template where
  segments : List Segment
  deriving DecidableEq

namespace Template

/-- The slots of the placeholders, from left to right. -/
def slots (template : Template) : List Slot :=
  template.segments.filterMap Segment.slot?

/-- The names of the variables, each where it is first seen. -/
def variableNames (template : Template) : List String :=
  (template.slots.map Slot.name).eraseDups

/-- The names of the modifiers, each where it is first seen. -/
def modifierNames (template : Template) : List String :=
  (template.slots.flatMap Slot.modifiers).eraseDups

/-- The branches of every alternative, from left to right. -/
def alternatives (template : Template) : List (List String) :=
  template.segments.filterMap Segment.branches?

def hasAlternative (template : Template) : Bool :=
  !template.alternatives.isEmpty

end Template

end Phrasebook
