import Phrasebook.Template.Delimiter
import Phrasebook.Text.Position

/-!
# What is wrong with a template

Strict reading stops where no segment starts, and why is told from the text that is left unread. It
starts with the two braces that open a placeholder, with a bar, or with any other character, or
there is none. No template is read up to one of the last two: see `Template.never_unexpected`.
-/
namespace Phrasebook

/-- Why a template cannot be read strictly. -/
inductive Flaw where
  /-- A placeholder that is opened and never closed. -/
  | unterminatedPlaceholder
  /-- A placeholder whose body starts without a name. -/
  | unnamedPlaceholder
  /-- A bar that separates no branches. -/
  | strayBar
  /-- A character that stands for itself. -/
  | unexpectedCharacter (c : Char)
  /-- No character at all. -/
  | unexpectedEnd
  deriving DecidableEq

namespace Flaw

/-- The flaw at the front of a text that does not start with a segment. -/
def ofUnread (unread : List Char) : Flaw :=
  match unread with
  | '{' :: '{' :: rest =>
    if (untilClosing rest).isSome then .unnamedPlaceholder else .unterminatedPlaceholder
  | '|' :: _ => .strayBar
  | c :: _ => .unexpectedCharacter c
  | [] => .unexpectedEnd

/-- What a syntax error says about the flaw. An unterminated placeholder is reported by its place
alone. -/
def detail? : Flaw → Option String
  | .unterminatedPlaceholder => none
  | .unnamedPlaceholder => some "placeholder has no variable name"
  | .strayBar => some "'|' outside of an alternative"
  | .unexpectedCharacter c => some ("unexpected character: '" ++ String.singleton c ++ "'")
  | .unexpectedEnd => some "unexpected end of input"

end Flaw

/-- A flaw and the position of its first character. -/
structure ParseError where
  flaw : Flaw
  position : Text.Position
  deriving DecidableEq

namespace ParseError

/-- The error of a template that was read up to `unread`. -/
def ofUnread (template unread : List Char) : ParseError where
  flaw := Flaw.ofUnread unread
  position := Text.Position.after (template.take (template.length - unread.length))

def message (error : ParseError) : String :=
  match error.flaw.detail? with
  | some detail => "syntax error at " ++ error.position.toText ++ ": " ++ detail
  | none => "unterminated placeholder starting at " ++ error.position.toText

end ParseError

end Phrasebook
