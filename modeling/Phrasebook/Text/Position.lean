/-!
# Positions in a text

A position is a line and a column, both counted from one. It is a fold over the text read so far,
so the position behind a text is known from the text alone.
-/
namespace Phrasebook.Text

structure Position where
  line : Nat
  column : Nat
  deriving DecidableEq

namespace Position

/-- Where every text starts. -/
def start : Position := ⟨1, 1⟩

/-- The position behind a character that stands at `position`. -/
def next (position : Position) (c : Char) : Position :=
  if c = '\n' then ⟨position.line + 1, 1⟩ else ⟨position.line, position.column + 1⟩

/-- The position of the first character behind `text`. -/
def after (text : List Char) : Position :=
  text.foldl next start

@[simp] theorem after_nil : after [] = start := rfl

@[simp] theorem after_append_singleton (text : List Char) (c : Char) :
    after (text ++ [c]) = (after text).next c := by
  simp [after]

/-- The position as it is written in messages. -/
def toText (position : Position) : String :=
  toString position.line ++ ":" ++ toString position.column

end Position

/-- How many bytes a text takes. -/
def byteCount : List Char → Nat
  | [] => 0
  | c :: text => c.utf8Size + byteCount text

@[simp] theorem byteCount_nil : byteCount [] = 0 := rfl

@[simp] theorem byteCount_cons (c : Char) (text : List Char) :
    byteCount (c :: text) = c.utf8Size + byteCount text := rfl

@[simp] theorem byteCount_append (a b : List Char) :
    byteCount (a ++ b) = byteCount a + byteCount b := by
  induction a with
  | nil => simp
  | cons c a ih => simp [ih]; omega

/-- The first lines of a text with their line breaks, and the text behind them. -/
def cutLines : (count : Nat) → List Char → List Char × List Char
  | 0, text => ([], text)
  | _ + 1, [] => ([], [])
  | count + 1, c :: text =>
    if c = '\n' then (c :: (cutLines count text).1, (cutLines count text).2)
    else (c :: (cutLines (count + 1) text).1, (cutLines (count + 1) text).2)

/-- How many bytes of a text lie before a position. A position that the text does not have is cut to
its end. -/
def Position.byteOffset (position : Position) (text : List Char) : Nat :=
  let (before, line) := cutLines (position.line - 1) text
  byteCount before + byteCount (line.take (position.column - 1))

end Phrasebook.Text
