import Phrasebook.Template.Basic
import Phrasebook.Template.Delimiter

/-!
# Writing templates

A template is written segment by segment. Strict reading and writing undo each other on templates
in canonical form.
-/
namespace Phrasebook

/-- The source text of a segment. -/
def Segment.source : Segment → List Char
  | .literal text => text.toList
  | .placeholder slot => opening ++ slot.body ++ closing
  | .alternative singular plural others =>
    '(' :: Text.joinFields '|' singular.toList ((plural :: others).map String.toList) ++ [')']

/-- The source text of a list of segments. -/
def Template.sourceOf (segments : List Segment) : List Char :=
  segments.flatMap Segment.source

@[simp] theorem Template.sourceOf_nil : Template.sourceOf [] = [] := rfl

@[simp] theorem Template.sourceOf_cons (segment : Segment) (segments : List Segment) :
    Template.sourceOf (segment :: segments) = segment.source ++ Template.sourceOf segments := rfl

/-- The source text of a template. -/
def Template.print (template : Template) : String :=
  String.ofList (sourceOf template.segments)

end Phrasebook
