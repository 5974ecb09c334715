import Phrasebook.Modifier.Registry
import Phrasebook.Text.Case

/-!
# Built-in modifiers

Three modifiers change the case of a value's text.
-/
namespace Phrasebook

/-- The modifier that changes the text of a value. -/
def Modifier.ofText (change : List Char → List Char) : Modifier :=
  fun value => .text (String.ofList (change value.toText.toList))

namespace Registry

/-- The registry of the modifiers `capitalize`, `upper` and `lower`. -/
def builtins : Registry :=
  ((∅ : Registry).register "capitalize" (.ofText Text.capitalize)
    |>.register "upper" (.ofText Text.upper)
    |>.register "lower" (.ofText Text.lower))

end Registry

end Phrasebook
