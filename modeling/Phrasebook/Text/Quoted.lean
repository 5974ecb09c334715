import Phrasebook.Unicode.GraphemeExtend
import Phrasebook.Unicode.Printable

/-!
# Quoted text

A text is quoted so that every character of it can be seen: the quote and the backslash, the common
controls and whatever could not be told apart in print are written as escapes.
-/
namespace Phrasebook.Text

/-- Whether a character is written as the number of its code point. -/
def isHidden (c : Char) : Bool :=
  Unicode.unprintable.contains c || Unicode.graphemeExtend.contains c

/-- A character inside quotes. -/
def quotedChar : Char → List Char
  | '\x00' => ['\\', '0']
  | '\t' => ['\\', 't']
  | '\r' => ['\\', 'r']
  | '\n' => ['\\', 'n']
  | '"' => ['\\', '"']
  | '\\' => ['\\', '\\']
  | c => if isHidden c then ['\\', 'u', '{'] ++ Nat.toDigits 16 c.toNat ++ ['}'] else [c]

/-- A text in double quotes. -/
def quoted (text : String) : String :=
  String.ofList ('"' :: text.toList.flatMap quotedChar ++ ['"'])

end Phrasebook.Text
