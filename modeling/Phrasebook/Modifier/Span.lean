import Phrasebook.Modifier.Registry
import Phrasebook.Template.Delimiter

/-!
# Writing modifier spans

A span is the source of a placeholder with one modifier more. What the modifier is added to may be
the name of a variable or a span already, so that spans are built up one modifier at a time.
-/
namespace Phrasebook

namespace Span

/-- A text without a closing mark at its end. -/
def withoutClosing (text : List Char) : List Char :=
  if closing.isSuffixOf text then text.take (text.length - closing.length) else text

/-- What a text names when a closing mark at its end is left out. A name is not empty and has no
closing brace. -/
def name? (text : List Char) : Option (List Char) :=
  let name := withoutClosing text
  if name.isEmpty || name.contains '}' then none else some name

/-- What a span or a name is about. The opening mark is left out only where a name remains, and a
text that names nothing is taken as it is. -/
def inner (text : List Char) : List Char :=
  let unopened? := if opening.isPrefixOf text then name? (text.drop opening.length) else none
  (unopened?.or (name? text)).getD text

/-- The span that applies a modifier to a variable or to another span. -/
def apply (modifier subject : String) : String :=
  String.ofList (opening ++ inner subject.toList ++ ':' :: modifier.toList ++ closing)

end Span

namespace Registry

/-- The span that applies a registered modifier. -/
def span? (registry : Registry) (modifier subject : String) : Option String :=
  if registry.contains modifier then some (Span.apply modifier subject) else none

/-- The span of every registered modifier, in the order of their names. -/
def spans (registry : Registry) (subject : String) : List (String × String) :=
  registry.keys.map fun modifier => (modifier, Span.apply modifier subject)

end Registry

end Phrasebook
