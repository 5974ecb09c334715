import Phrasebook.Unicode.Emoji
import Phrasebook.Unicode.GraphemeBreak
import Phrasebook.Unicode.GraphemeExtend
import Phrasebook.Unicode.Ligature
import Phrasebook.Unicode.Wide

/-!
# The width of text

How many columns a text takes where all characters stand in a grid: two for a wide character, none
for one that is drawn over the one before it or has no mark, and one for any other. Some characters
are drawn as one with those behind them, which is why a text is measured from its end: pictures that
joiners, skin tones and marks put together take two columns, and letters that are written as one
sign take one.
-/
namespace Phrasebook.Text

open Unicode

/-- Vowels and final consonants of Hangul, which are drawn in the block of the letter before. -/
def isSyllablePart (c : Char) : Bool :=
  (0x1160 ≤ c.toNat && c.toNat < 0x1200) || (0xD7B0 ≤ c.toNat && c.toNat < 0xD800)

/-- Signs of numbers and texts that are drawn over or around what they belong to. -/
def isEnclosingSign (c : Char) : Bool :=
  [0x605, 0x70F, 0x890, 0x891, 0x8E2, 0xA8FA].contains c.toNat

/-- Marks that take no room of their own. -/
def isMark (c : Char) : Bool :=
  graphemeExtend.contains c || ignorable.contains c

/-- The width of a character that stands alone. -/
def charWidth (c : Char) : Nat :=
  if c.toNat = 0x2D7F then 1
  else if c.toNat = 0x17A4 then 2
  else if c.toNat = 0x17D8 then 3
  else if isMark c || isSyllablePart c || isEnclosingSign c then 0
  else if wide.contains c then 2
  else 1

/-- What a text starts with, as far as a character before it may be drawn as one with it. -/
inductive Head where
  /-- A character that nothing is joined to, or nothing at all. -/
  | single (columns : Nat)
  /-- A picture. -/
  | picture
  /-- A skin tone. -/
  | skinTone
  /-- A joiner and a picture. -/
  | joinedPicture
  /-- A mark that asks for a picture, a joiner and a picture. -/
  | markedPicture
  /-- A mark that asks for a picture. -/
  | pictureMark
  /-- A mark that asks for text. -/
  | textMark
  /-- An Arabic letter with the shape of alef. -/
  | alef
  /-- A letter, and whether a joiner stands before it. -/
  | letter (c : Char) (joined : Bool)
  /-- The joining mark of Tifinagh and a consonant. -/
  | tifinaghJoiner
  deriving DecidableEq

namespace Head

def columns : Head → Nat
  | .single columns => columns
  | .picture | .skinTone | .joinedPicture | .markedPicture | .tifinaghJoiner => 2
  | .pictureMark | .textMark => 0
  | .alef | .letter _ _ => 1

/-- The head of a text whose first character is joined to nothing. -/
def of (c : Char) : Head :=
  if c.toNat = 0xFE0F then .pictureMark
  else if c.toNat = 0xFE0E then .textMark
  else if emojiModifier.contains c then .skinTone
  else if emojiPresentation.contains c then .picture
  else if Unicode.alef.contains c then .alef
  else if khmerSubscript.contains c || joinable.contains c then .letter c false
  else .single (charWidth c)

def isJoiner (c : Char) : Bool :=
  c.toNat = 0x200D

/-- The head that a character makes with a letter behind it. -/
def joinLetter? (c last : Char) (joined : Bool) : Option Head :=
  if c.toNat = 0x17D2 && khmerSubscript.contains last then some (.single 0)
  else if lisuFirstTone.contains c && lisuSecondTone.contains last then some (.single 1)
  else if c.toNat = 0x2D7F && tifinaghConsonant.contains last then some .tifinaghJoiner
  else if joined && tifinaghConsonant.contains c && tifinaghConsonant.contains last then
    some (.single 1)
  else if joined && [(0x5D0, 0x5DC), (0x10C32, 0x10C03), (0x1A15, 0x1A17)].contains
      (c.toNat, last.toNat) then some (.single 1)
  else if joined && c.toNat = 0x1A17 && last.toNat = 0x1A10 then some (.letter c true)
  else if isJoiner c then some (.letter last true)
  else if isMark c then some (.letter last joined)
  else none

/-- The head that a character makes with the one behind it, if they are drawn as one. -/
def join? (c : Char) : Head → Option Head
  | .single _ => none
  | .picture => if isJoiner c then some .joinedPicture else none
  | .skinTone =>
    if isJoiner c then some .joinedPicture
    else if emojiModifierBase.contains c then some .picture
    else none
  | .joinedPicture =>
    if c.toNat = 0xFE0F then some .markedPicture
    else if emojiModifier.contains c then some .skinTone
    else if emojiPresentation.contains c then some .picture
    else none
  | .markedPicture | .pictureMark =>
    if emojiModifier.contains c then some .skinTone
    else if emoji.contains c then some .picture
    else none
  | .textMark => if textPresentation.contains c then some (.single 1) else none
  | .alef =>
    if lam.contains c then some (.single 1)
    else if isMark c && !separatesArabic.contains c then some .alef
    else none
  | .letter last joined => joinLetter? c last joined
  | .tifinaghJoiner =>
    if tifinaghConsonant.contains c then some (.single 1)
    else if isMark c then some .tifinaghJoiner
    else none

@[simp] theorem join?_single (c : Char) (columns : Nat) : (single columns).join? c = none := rfl

@[simp] theorem columns_single (columns : Nat) : (single columns).columns = columns := rfl

@[simp] theorem of_blank : of ' ' = .single 1 := by decide

/-- A blank is drawn on its own, whatever stands behind it. -/
@[simp] theorem join?_blank (head : Head) : head.join? ' ' = none := by
  cases head with
  | letter last joined =>
    have hlisu : lisuFirstTone.contains ' ' = false := by decide
    have htifinagh : tifinaghConsonant.contains ' ' = false := by decide
    have hjoiner : isJoiner ' ' = false := by decide
    have hmark : isMark ' ' = false := by decide
    simp [join?, joinLetter?, hlisu, htifinagh, hjoiner, hmark]
  | _ => rfl

end Head

/-- The columns of a text behind its head, and its head. -/
def measure : List Char → Nat × Head
  | [] => (0, .single 0)
  | c :: text =>
    match (measure text).2.join? c with
    | some head => ((measure text).1, head)
    | none => ((measure text).1 + (measure text).2.columns, .of c)

def width (text : List Char) : Nat :=
  (measure text).1 + (measure text).2.columns

/-- A text with blanks behind it up to a width. -/
def padRight (columns : Nat) (text : List Char) : List Char :=
  text ++ List.replicate (columns - width text) ' '

@[simp] theorem width_nil : width [] = 0 := rfl

@[simp] theorem width_blank (text : List Char) : width (' ' :: text) = width text + 1 := by
  simp [width, measure]

/-- Nothing that stands before the text is joined to it. -/
def StandsAlone (text : List Char) : Prop :=
  ∃ columns, (measure text).2 = .single columns

theorem standsAlone_nil : StandsAlone [] := ⟨0, rfl⟩

theorem standsAlone_blank (text : List Char) : StandsAlone (' ' :: text) :=
  ⟨1, by simp [measure]⟩

namespace StandsAlone
variable {c : Char} {text : List Char} {columns : Nat}

/-- In front of a text that stands alone a character of its own does so too. -/
theorem cons (h : StandsAlone text) (hc : Head.of c = .single columns) :
    StandsAlone (c :: text) := by
  obtain ⟨behind, hbehind⟩ := h
  exact ⟨columns, by simp [measure, hbehind, hc]⟩

theorem width_cons (h : StandsAlone text) (hc : Head.of c = .single columns) :
    width (c :: text) = columns + width text := by
  obtain ⟨behind, hbehind⟩ := h
  simp only [width, measure, hbehind, hc, Head.join?_single, Head.columns_single]
  exact Nat.add_comm _ _

theorem replicate_append (h : StandsAlone text) (hc : Head.of c = .single columns) (count : Nat) :
    StandsAlone (List.replicate count c ++ text) := by
  induction count with
  | zero => exact h
  | succ count ih => exact ih.cons hc

theorem width_replicate_append (h : StandsAlone text) (hc : Head.of c = .single columns)
    (count : Nat) : width (List.replicate count c ++ text) = count * columns + width text := by
  induction count with
  | zero => simp
  | succ count ih =>
    rw [List.replicate_succ, List.cons_append, (h.replicate_append hc count).width_cons hc, ih,
      Nat.succ_mul]
    omega

end StandsAlone

theorem standsAlone_blanks (count : Nat) : StandsAlone (List.replicate count ' ') := by
  simpa using standsAlone_nil.replicate_append Head.of_blank count

@[simp] theorem width_blanks (count : Nat) : width (List.replicate count ' ') = count := by
  simpa using standsAlone_nil.width_replicate_append Head.of_blank count

/-- What is behind a character that nothing is joined to does not change the head of a text. -/
theorem measure_append {b : List Char} {columns : Nat} (h : (measure b).2 = .single columns)
    (c : Char) (a : List Char) :
    measure (c :: a ++ b) = ((measure (c :: a)).1 + width b, (measure (c :: a)).2) := by
  induction a generalizing c with
  | nil => simp [measure, h, width]
  | cons d a ih =>
    have hd := ih d
    simp only [List.cons_append] at hd ⊢
    rw [measure, hd, measure.eq_2 c (d :: a)]
    cases (measure (d :: a)).2.join? c with
    | none => simp only [Prod.mk.injEq, and_true]; omega
    | some head => rfl

/-- Texts next to each other take the columns of both, unless the second one is joined to the
first. -/
theorem width_append (a : List Char) {b : List Char} (h : StandsAlone b) :
    width (a ++ b) = width a + width b := by
  obtain ⟨columns, hb⟩ := h
  cases a with
  | nil => simp
  | cons c a =>
    have happend := measure_append hb c a
    simp only [width, happend]
    omega

/-- Padding a text that fits makes it exactly as wide as is asked for. -/
theorem width_padRight {columns : Nat} {text : List Char} (h : width text ≤ columns) :
    width (padRight columns text) = columns := by
  rw [padRight, width_append text (standsAlone_blanks _), width_blanks]
  omega

end Phrasebook.Text
