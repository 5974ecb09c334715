import Phrasebook.Json.Text
import Phrasebook.Decimal.Notation

/-!
# Writing JSON

A document is a value that can be written at any depth of indentation. Compact text has no blanks;
indented text has every member and item on a line of its own, two blanks further in than what it
belongs to, and a space behind the colon. What is empty is written without a break.
-/
namespace Phrasebook.Json

inductive Style where
  | compact
  | indented
  deriving DecidableEq

/-- A value to be written, at a depth. -/
abbrev Document : Type := Style → (depth : Nat) → List Char

/-- The start of a line at a depth. -/
def Style.lineBreak (style : Style) (depth : Nat) : List Char :=
  match style with
  | .compact => []
  | .indented => '\n' :: List.replicate (2 * depth) ' '

/-- What separates a key from its value. -/
def Style.colon : Style → List Char
  | .compact => [':']
  | .indented => [':', ' ']

namespace Document

/-- Items in brackets. -/
def bracketed (first last : Char) (items : List Document) : Document := fun style depth =>
  match items with
  | [] => [first, last]
  | item :: items =>
    first :: style.lineBreak (depth + 1) ++ item style (depth + 1)
      ++ items.flatMap (fun item => ',' :: style.lineBreak (depth + 1) ++ item style (depth + 1))
      ++ style.lineBreak depth ++ [last]

def text (s : String) : Document := fun _ _ => writeText s.toList

def nat (n : Nat) : Document := fun _ _ => Nat.toDigits 10 n

def array (items : List Document) : Document :=
  bracketed '[' ']' items

/-- A key and its value. -/
def member (key : String) (value : Document) : Document := fun style depth =>
  writeText key.toList ++ style.colon ++ value style depth

def object (members : List (String × Document)) : Document :=
  bracketed '{' '}' (members.map fun (key, value) => member key value)

/-- A document as a text of its own. -/
def write (document : Document) (style : Style) : String :=
  String.ofList (document style 0)

end Document

end Phrasebook.Json
