import Phrasebook.Unicode.GraphemeBreak
import Phrasebook.Unicode.GraphemeExtend

/-!
# Grapheme clusters

What a reader takes for one character may be several: a letter with its accents, a syllable block,
a pair of regional indicators, a joined emoji. The rules say whether a character belongs to the
cluster before it; they look back over that cluster, whose characters are given from the last one to
the first.
-/
namespace Phrasebook.Unicode

/-- Characters that are clusters by themselves. -/
def isBreak (c : Char) : Bool :=
  c = '\r' || c = '\n' || graphemeControl.contains c

/-- Marks that take no room of their own. -/
def isExtend (c : Char) : Bool :=
  graphemeExtend.contains c || emojiModifier.contains c

/-- The joiner of emoji. -/
def isJoiner (c : Char) : Bool :=
  c.toNat = 0x200D

/-- Syllable blocks without a final consonant. -/
def isOpenSyllable (c : Char) : Bool :=
  hangulSyllable.contains c && (c.toNat - 0xAC00) % 28 = 0

/-- Syllable blocks with a final consonant. -/
def isClosedSyllable (c : Char) : Bool :=
  hangulSyllable.contains c && (c.toNat - 0xAC00) % 28 ≠ 0

/-- Two parts of one syllable block. -/
def joinsSyllable (last c : Char) : Bool :=
  (hangulLeading.contains last &&
      (hangulLeading.contains c || hangulVowel.contains c || hangulSyllable.contains c))
    || ((isOpenSyllable last || hangulVowel.contains last) &&
      (hangulVowel.contains c || hangulTrailing.contains c))
    || ((isClosedSyllable last || hangulTrailing.contains last) && hangulTrailing.contains c)

/-- A pictograph behind a pictograph, its marks and a joiner. -/
def joinsPictograph (last : Char) (before : List Char) (c : Char) : Bool :=
  isJoiner last && extendedPictographic.contains c
    && (before.dropWhile isExtend).head?.any extendedPictographic.contains

/-- Marks that may stand between the consonants of a conjunct. -/
def isConjunctMark (c : Char) : Bool :=
  (isExtend c || isJoiner c) && c.toNat ≠ 0x200C

/-- A consonant behind a consonant and marks, one of which is a linker. -/
def joinsConjunct (cluster : List Char) (c : Char) : Bool :=
  conjunctConsonant.contains c
    && (cluster.takeWhile isConjunctMark).any conjunctLinker.contains
    && (cluster.dropWhile isConjunctMark).head?.any conjunctConsonant.contains

/-- The second of a pair of regional indicators. -/
def joinsRegion (cluster : List Char) (c : Char) : Bool :=
  regionalIndicator.contains c && (cluster.takeWhile regionalIndicator.contains).length % 2 = 1

/-- Whether a character belongs to the cluster before it. -/
def joinsCluster : List Char → Char → Bool
  | [], _ => false
  | last :: before, c =>
    if last = '\r' && c = '\n' then true
    else if isBreak last || isBreak c then false
    else isExtend c || isJoiner c || spacingMark.contains c || prepend.contains last
      || joinsSyllable last c || joinsPictograph last before c
      || joinsConjunct (last :: before) c || joinsRegion (last :: before) c

/-- The rest of a cluster at the front of a text, and the text behind it. -/
def restOfCluster (cluster : List Char) : List Char → List Char × List Char
  | [] => ([], [])
  | c :: text =>
    if joinsCluster cluster c then
      (c :: (restOfCluster (c :: cluster) text).1, (restOfCluster (c :: cluster) text).2)
    else ([], c :: text)

/-- The first cluster of a text, and the text behind it. -/
def firstCluster : List Char → List Char × List Char
  | [] => ([], [])
  | c :: text => (c :: (restOfCluster [c] text).1, (restOfCluster [c] text).2)

@[simp] theorem restOfCluster_append (cluster text : List Char) :
    (restOfCluster cluster text).1 ++ (restOfCluster cluster text).2 = text := by
  induction text generalizing cluster with
  | nil => rfl
  | cons c text ih => by_cases h : joinsCluster cluster c <;> simp [restOfCluster, h, ih]

/-- Splitting off the first cluster loses nothing. -/
@[simp] theorem firstCluster_append (text : List Char) :
    (firstCluster text).1 ++ (firstCluster text).2 = text := by
  cases text <;> simp [firstCluster]

end Phrasebook.Unicode
