import Phrasebook.Decimal.Notation
import Phrasebook.Decimal.Numeral

/-!
# Values

A template variable is bound to an integer of 64 bits, a double or a text. Modifiers take and give
values, so a chain of them may turn a number into text half way. Equality is that of the parts:
values of different kinds differ, and doubles are compared as numbers, so that what is not a number
differs from itself.
-/
namespace Phrasebook

inductive Value where
  | number (n : Int64)
  | float (x : Float)
  | text (s : String)
  deriving BEq

namespace Value

/-- Doubles are written positionally, whole ones without a fraction; of two equally near digit
strings the greater is taken. -/
def floatLayout : Decimal.Layout where
  tie := .away
  positional := fun _ => true
  wholeSuffix := ""
  notANumber := "NaN"
  infinite := "inf"

/-- The text that a template shows for the value. -/
def toText : Value → String
  | .number n => Decimal.intText n.toInt
  | .float x => floatLayout.floatText x
  | .text s => s

@[simp] theorem toText_text (s : String) : (Value.text s).toText = s := rfl

/-- The integer, if the value is one. -/
def number? : Value → Option Int64
  | .number n => some n
  | .float _ => none
  | .text _ => none

/-- The text, if the value is one. -/
def text? : Value → Option String
  | .text s => some s
  | .number _ => none
  | .float _ => none

/-- Whether the value is the number one, which selects the singular. The text `1` is no number. -/
def isOne : Value → Bool
  | .number n => n == 1
  | .float x => x == 1.0
  | .text _ => false

@[simp] theorem isOne_number_one : (Value.number 1).isOne = true := rfl

@[simp] theorem isOne_text (s : String) : (Value.text s).isOne = false := rfl

/-- An unsigned number is an integer as long as it fits, and the nearest double beyond. -/
def ofUInt64 (n : UInt64) : Value :=
  if n ≤ Int64.maxValue.toUInt64 then .number n.toInt64 else .float n.toFloat

/-- A value given as text: an integer if it reads as one, a double if it reads as a numeral, and
the text itself otherwise. -/
def ofText (text : String) : Value :=
  match Decimal.int64Of? text.toList, Decimal.numeralOf? text.toList with
  | some n, _ => .number n
  | none, some numeral => .float numeral.toFloat
  | none, none => .text text

end Value

end Phrasebook
