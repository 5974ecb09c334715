import Phrasebook.Unicode.CaseContext
import Phrasebook.Unicode.CaseMapping
import Phrasebook.Unicode.Grapheme

/-!
# The case of texts

Texts are put into uppercase character by character. In lowercase one letter depends on the
letters around it: a sigma is final behind a letter when no letter follows. A text is capitalized
by its first grapheme cluster.
-/
namespace Phrasebook.Text

open Unicode (uppercase lowercase cased caseIgnorable firstCluster)

/-- The text in uppercase. -/
def upper (text : List Char) : List Char :=
  text.flatMap uppercase.map

@[simp] theorem upper_append (a b : List Char) : upper (a ++ b) = upper a ++ upper b := by
  simp [upper]

/-- Whether a letter comes next, characters apart that say nothing about it. -/
def meetsLetter (text : List Char) : Bool :=
  (text.dropWhile caseIgnorable.contains).head?.any cased.contains

/-- The lowercase of a character between the text before it, from its end, and the text behind. -/
def lowerAt (before : List Char) (c : Char) (after : List Char) : List Char :=
  if c = 'Σ' then [if meetsLetter before && !meetsLetter after then 'ς' else 'σ']
  else lowercase.map c

/-- The lowercase of a text behind another one, which is given from its end. -/
def lowerBehind (before : List Char) : List Char → List Char
  | [] => []
  | c :: after => lowerAt before c after ++ lowerBehind (c :: before) after

/-- The text in lowercase. -/
def lower (text : List Char) : List Char :=
  lowerBehind [] text

/-- The text with its first grapheme cluster in uppercase. -/
def capitalize (text : List Char) : List Char :=
  upper (firstCluster text).1 ++ (firstCluster text).2

end Phrasebook.Text
