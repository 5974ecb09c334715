/-!
# Edit distance

The least number of characters to insert, delete or replace that makes one text of another. The
distances from all prefixes of one text are kept in a row, and each character of the other text
makes the next row of it.
-/
namespace Phrasebook.Text

/-- The row of distances behind one more character `c` of the first text. `diagonal` is the
distance left of the previous row's front, and `left` the distance just found. -/
def nextDistances (c : Char) : List Char → (diagonal left : Nat) → List Nat → List Nat
  | d :: text, diagonal, left, above :: row =>
    let here := min (min (above + 1) (left + 1)) (if c = d then diagonal else diagonal + 1)
    here :: nextDistances c text above here row
  | _, _, _, _ => []

/-- The distances from a text, of which `source` is left, to every prefix of `target`. -/
def distances (target : List Char) : (source : List Char) → (row : List Nat) → List Nat
  | [], row => row
  | c :: source, row =>
    match row with
    | [] => []
    | first :: others =>
      distances target source ((first + 1) :: nextDistances c target first (first + 1) others)

/-- The edit distance of two texts. -/
def editDistance (source target : List Char) : Nat :=
  (distances target source (List.range (target.length + 1))).getLastD 0

end Phrasebook.Text
